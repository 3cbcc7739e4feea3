import Parlance.Network.Messaging.Message
import Parlance.Core.Peer

namespace Parlance.Messaging

open Json

inductive MessageEvent where
  | received (msg : TextMessage)
  | sent (toNickname content : String)
  | sendError (toNickname error : String)
deriving DecidableEq, Repr

inductive ParlanceError (ε : Type) where
  | network (error : ε)
  | peerNotFound (nickname : String)
deriving DecidableEq, Repr

def ParlanceError.message {ε : Type} (display : ε → String) : ParlanceError ε → String
  | .network error => "Network error: " ++ display error
  | .peerNotFound nickname => "Peer not found: " ++ nickname

inductive NetOp where
  | connect (addr : SocketAddr)
  | write (bytes : List UInt8)
  | flush
deriving DecidableEq, Repr

def NetOp.written : NetOp → List UInt8
  | .write bytes => bytes
  | _ => []

/-- The operations in order until one fails, as the `?`s after them do: those attempted, and the
    outcome. -/
def perform {ε : Type} (net : NetOp → Except ε Unit) : List NetOp → List NetOp × Except ε Unit
  | [] => ([], .ok ())
  | op :: ops =>
    match net op with
    | .ok () => ((perform net ops).1.cons op, (perform net ops).2)
    | .error e => ([op], .error e)

def deliveryOps (addr : SocketAddr) (msg : TextMessage) : List NetOp :=
  [.connect addr, .write msg.toVec, .write [byte '\n'], .flush]

/-- The body `send_message` and `send_to_peer` share, `net` giving the outcome of each network
    operation. -/
def deliver {ε : Type} (nickname : String) (registry : PeerRegistry) (toNickname content : String)
    (now : I64) (net : NetOp → Except ε Unit) : Except (ParlanceError ε) Unit × List NetOp :=
  match registry.getAll.find? fun p => p.nickname = toNickname with
  | none => (.error (.peerNotFound toNickname), [])
  | some peer =>
    let (ops, result) := perform net (deliveryOps peer.addr ⟨nickname, content, now⟩)
    (result.mapError .network, ops)

structure SendRun (ε : Type) where
  result : Except (ParlanceError ε) Unit
  ops : List NetOp
  events : List MessageEvent

def sendMessage {ε : Type} (nickname : String) (registry : PeerRegistry) (toNickname content : String)
    (now : I64) (net : NetOp → Except ε Unit) : SendRun ε :=
  let (result, ops) := deliver nickname registry toNickname content now net
  match result with
  | .ok () => ⟨.ok (), ops, [.sent toNickname content]⟩
  | .error e => ⟨.error e, ops, []⟩

def sendToPeer {ε : Type} (nickname toNickname content : String) (registry : PeerRegistry) (now : I64)
    (net : NetOp → Except ε Unit) : Except (ParlanceError ε) Unit × List NetOp :=
  deliver nickname registry toNickname content now net

section

variable {ε : Type} (net : NetOp → Except ε Unit)

theorem perform_ok {ops : List NetOp} (done : (perform net ops).2 = .ok ()) :
    (perform net ops).1 = ops := by
  induction ops with
  | nil => rfl
  | cons op ops ih =>
    unfold perform at done ⊢
    cases succeeded : net op with
    | ok _ =>
      simp only [succeeded] at done ⊢
      rw [ih done]
    | error e => simp [succeeded] at done

theorem perform_reliable (reliable : ∀ op, net op = .ok ()) (ops : List NetOp) :
    perform net ops = (ops, .ok ()) := by
  induction ops with
  | nil => rfl
  | cons op ops ih => rw [perform, reliable op, ih]

theorem perform_sublist (ops : List NetOp) : List.Sublist (perform net ops).1 ops := by
  induction ops with
  | nil => exact List.Sublist.refl _
  | cons op ops ih =>
    unfold perform
    cases net op with
    | ok _ => exact ih.cons₂ op
    | error e => exact (List.nil_sublist ops).cons₂ op

theorem written_deliveryOps (addr : SocketAddr) (msg : TextMessage) :
    (deliveryOps addr msg).flatMap NetOp.written = msg.toVec ++ [byte '\n'] := by
  simp [deliveryOps, NetOp.written]

theorem written_of_deliver_ok {nickname toNickname content : String} {registry : PeerRegistry}
    {now : I64} (delivered : (deliver nickname registry toNickname content now net).1 = .ok ()) :
    (deliver nickname registry toNickname content now net).2.flatMap NetOp.written =
      (⟨nickname, content, now⟩ : TextMessage).toVec ++ [byte '\n'] := by
  unfold deliver at delivered ⊢
  cases found : registry.getAll.find? fun p => p.nickname = toNickname with
  | none => simp [found] at delivered
  | some peer =>
    simp only [found] at delivered ⊢
    have done : (perform net (deliveryOps peer.addr ⟨nickname, content, now⟩)).2 = .ok () := by
      revert delivered
      cases (perform net (deliveryOps peer.addr ⟨nickname, content, now⟩)).2 <;> simp [Except.mapError]
    rw [perform_ok net done, written_deliveryOps]

theorem deliver_not_found {nickname toNickname content : String} {registry : PeerRegistry}
    {now : I64} (absent : ∀ p ∈ registry.getAll, p.nickname ≠ toNickname) :
    deliver nickname registry toNickname content now net = (.error (.peerNotFound toNickname), []) := by
  have missing : (registry.getAll.find? fun p => p.nickname = toNickname) = none :=
    List.find?_eq_none.mpr fun p member same => absent p member (of_decide_eq_true same)
  rw [deliver, missing]

theorem deliver_found {nickname toNickname content : String} {registry : PeerRegistry} {now : I64}
    {peer : Peer} (found : (registry.getAll.find? fun p => p.nickname = toNickname) = some peer) :
    deliver nickname registry toNickname content now net =
      ((perform net (deliveryOps peer.addr ⟨nickname, content, now⟩)).2.mapError .network,
        (perform net (deliveryOps peer.addr ⟨nickname, content, now⟩)).1) := by
  rw [deliver, found]

theorem deliver_reliable (reliable : ∀ op, net op = .ok ()) {nickname toNickname content : String}
    {registry : PeerRegistry} {now : I64} (present : ∃ p ∈ registry.getAll, p.nickname = toNickname) :
    ∃ peer : Peer, deliver nickname registry toNickname content now net =
      (.ok (), deliveryOps peer.addr ⟨nickname, content, now⟩) := by
  obtain ⟨p, member, named⟩ := present
  obtain ⟨peer, found⟩ := Option.isSome_iff_exists.mp
    (List.find?_isSome.mpr ⟨p, member, decide_eq_true named⟩ : (registry.getAll.find? fun p => p.nickname = toNickname).isSome)
  exact ⟨peer, by rw [deliver_found net found, perform_reliable net reliable]; rfl⟩

/-- `send_message` fails with `PeerNotFound` and attempts nothing exactly when no peer has the
    nickname; otherwise every operation it attempts is on the address of a peer with it. The
    registry is only read. -/
theorem deliver_spec (nickname toNickname content : String) (registry : PeerRegistry) (now : I64) :
    ((deliver nickname registry toNickname content now net).1 = .error (.peerNotFound toNickname) ↔
        ∀ p ∈ registry.getAll, p.nickname ≠ toNickname) ∧
      ((∀ p ∈ registry.getAll, p.nickname ≠ toNickname) →
        (deliver nickname registry toNickname content now net).2 = []) ∧
      ∀ addr, NetOp.connect addr ∈ (deliver nickname registry toNickname content now net).2 →
        ∃ p ∈ registry.getAll, p.nickname = toNickname ∧ p.addr = addr := by
  cases found : registry.getAll.find? fun p => p.nickname = toNickname with
  | none =>
    have absent : ∀ p ∈ registry.getAll, p.nickname ≠ toNickname := fun p member same =>
      List.find?_eq_none.mp found p member (decide_eq_true same)
    rw [deliver_not_found net absent]
    exact ⟨iff_of_true rfl absent, fun _ => rfl, fun addr member => absurd member (List.not_mem_nil _)⟩
  | some peer =>
    have chosen := List.mem_of_find?_eq_some found
    have named : peer.nickname = toNickname := by simpa using List.find?_some found
    rw [deliver_found net found]
    refine ⟨⟨fun failed => ?_, fun absent => absurd named (absent peer chosen)⟩,
      fun absent => absurd named (absent peer chosen), fun addr member => ⟨peer, chosen, named, ?_⟩⟩
    · revert failed
      cases (perform net (deliveryOps peer.addr ⟨nickname, content, now⟩)).2 <;> simp [Except.mapError]
    · have inside := (perform_sublist net _).subset member
      simp [deliveryOps] at inside
      exact inside.symm

theorem sendMessage_events (nickname toNickname content : String) (registry : PeerRegistry) (now : I64) :
    (sendMessage nickname registry toNickname content now net).events =
      match (sendMessage nickname registry toNickname content now net).result with
      | .ok () => [.sent toNickname content]
      | .error _ => [] := by
  unfold sendMessage
  generalize deliver nickname registry toNickname content now net = delivery
  rcases delivery with ⟨_ | _, ops⟩ <;> rfl

theorem sendMessage_result_ops (nickname toNickname content : String) (registry : PeerRegistry)
    (now : I64) :
    ((sendMessage nickname registry toNickname content now net).result,
      (sendMessage nickname registry toNickname content now net).ops) =
      deliver nickname registry toNickname content now net := by
  unfold sendMessage
  generalize deliver nickname registry toNickname content now net = delivery
  rcases delivery with ⟨_ | _, ops⟩ <;> rfl

/-- `send_message` sends no event when it fails, though the spec has a `SendError` event then:
    with `"Bob"` in no entry, it returns `PeerNotFound("Bob")` and the event channel gets
    nothing. -/
theorem sendMessage_error_sends_nothing :
    (∀ (nickname toNickname content : String) (registry : PeerRegistry) (now : I64),
      (∃ e, (sendMessage nickname registry toNickname content now net).result = .error e) →
        (sendMessage nickname registry toNickname content now net).events = []) ∧
    ∀ (nickname content : String) (now : I64),
      (sendMessage nickname PeerRegistry.new "Bob" content now net).result = .error (.peerNotFound "Bob") ∧
        (sendMessage nickname PeerRegistry.new "Bob" content now net).ops = [] ∧
        (sendMessage nickname PeerRegistry.new "Bob" content now net).events = [] := by
  refine ⟨fun nickname toNickname content registry now ⟨e, failed⟩ => ?_, fun nickname content now => ?_⟩
  · rw [sendMessage_events, failed]
  · have absent : ∀ p ∈ PeerRegistry.new.getAll, p.nickname ≠ "Bob" := fun p member =>
      absurd member (List.not_mem_nil p)
    simp [sendMessage, deliver_not_found net absent]

end

end Parlance.Messaging
