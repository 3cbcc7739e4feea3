import Parlance.Network.Discovery.Message
import Parlance.Core.Registry

namespace Parlance.Discovery

open Json PeerRegistry

structure DiscoveryConfig where
  nickname : String
  tcpPort : UInt16
  peerTimeout : Duration

/-- The length of the listen task's buffer: `recv_from` cuts a longer datagram to it. -/
def bufferSize : Nat := 65536

def announcement (config : DiscoveryConfig) : List UInt8 :=
  (DiscoveryMessage.announce config.nickname config.tcpPort).toVec

/-- One round of the listen task on a datagram of `payload` from `source`, at `Instant::now() =
    now`. -/
def listen (config : DiscoveryConfig) (fromAddr : SocketAddr → PeerId) (r : PeerRegistry)
    (payload : List UInt8) (source : SocketAddr) (now : Instant) : PeerRegistry :=
  match DiscoveryMessage.fromSlice (payload.take bufferSize) with
  | .ok (.announce nickname tcpPort) =>
    if nickname = config.nickname then r
    else r.upsert now (Peer.new fromAddr nickname (SocketAddr.new source.ip tcpPort) now)
  | .ok (.goodbye _) => r
  | .error _ => r

/-- What the engine does to the registry: the listen task on a datagram, or a sweep of the
    cleanup task. Each holds the registry's lock for its whole call, so a run is a sequence of
    steps; the announce task and a failed `recv_from` leave the registry alone. -/
inductive DiscoveryStep where
  | receive (payload : List UInt8) (source : SocketAddr) (now : Instant)
  | sweep (now : Instant)

def step (config : DiscoveryConfig) (fromAddr : SocketAddr → PeerId) (r : PeerRegistry) :
    DiscoveryStep → PeerRegistry
  | .receive payload source now => listen config fromAddr r payload source now
  | .sweep now => (r.removeTimedOut now config.peerTimeout).2

def run (config : DiscoveryConfig) (fromAddr : SocketAddr → PeerId) (steps : List DiscoveryStep) :
    PeerRegistry :=
  steps.foldl (step config fromAddr) PeerRegistry.new

def accepted (config : DiscoveryConfig) (payload : List UInt8) (source : SocketAddr) :
    Option (String × SocketAddr) :=
  match DiscoveryMessage.fromSlice (payload.take bufferSize) with
  | .ok (.announce nickname tcpPort) =>
    if nickname = config.nickname then none else some (nickname, SocketAddr.new source.ip tcpPort)
  | _ => none

def DiscoveryStep.announceFor (config : DiscoveryConfig) (fromAddr : SocketAddr → PeerId)
    (k : PeerId) : DiscoveryStep → Option (String × SocketAddr × Instant)
  | .receive payload source now =>
    match accepted config payload source with
    | some (nickname, endpoint) => if fromAddr endpoint = k then some (nickname, endpoint, now) else none
    | none => none
  | .sweep _ => none

def DiscoveryStep.expires (timeout : Duration) (seen : Instant) : DiscoveryStep → Bool
  | .sweep now => now - seen > timeout
  | .receive .. => false

section

variable (config : DiscoveryConfig) (fromAddr : SocketAddr → PeerId)

theorem listen_eq (r : PeerRegistry) (payload : List UInt8) (source : SocketAddr) (now : Instant) :
    listen config fromAddr r payload source now =
      match accepted config payload source with
      | some (nickname, endpoint) => r.upsert now (Peer.new fromAddr nickname endpoint now)
      | none => r := by
  unfold listen accepted
  cases DiscoveryMessage.fromSlice (payload.take bufferSize) with
  | error e => rfl
  | ok msg =>
    cases msg with
    | goodbye _ => rfl
    | announce nickname tcpPort => by_cases foreign : nickname = config.nickname <;> simp [foreign]

theorem accepted_eq_some {payload : List UInt8} {source : SocketAddr} {nickname : String}
    {endpoint : SocketAddr} :
    accepted config payload source = some (nickname, endpoint) ↔
      ∃ tcpPort, DiscoveryMessage.fromSlice (payload.take bufferSize) = .ok (.announce nickname tcpPort) ∧
        nickname ≠ config.nickname ∧ endpoint = SocketAddr.new source.ip tcpPort := by
  unfold accepted
  cases DiscoveryMessage.fromSlice (payload.take bufferSize) with
  | error e => simp
  | ok msg =>
    cases msg with
    | goodbye _ => simp
    | announce nickname' tcpPort =>
      by_cases mine : nickname' = config.nickname
      · simp only [mine, if_true, reduceCtorEq, false_iff]
        rintro ⟨_, decoded, foreign, -⟩
        simp only [Except.ok.injEq, DiscoveryMessage.announce.injEq] at decoded
        exact foreign decoded.1.symm
      · simp only [mine, if_false, Option.some.injEq, Prod.mk.injEq, Except.ok.injEq,
          DiscoveryMessage.announce.injEq]
        constructor
        · rintro ⟨rfl, rfl⟩
          exact ⟨tcpPort, ⟨rfl, rfl⟩, mine, rfl⟩
        · rintro ⟨_, ⟨rfl, rfl⟩, -, rfl⟩
          exact ⟨rfl, rfl⟩

theorem announceFor_spec {k : PeerId} {s : DiscoveryStep} {nickname : String} {endpoint : SocketAddr}
    {seen : Instant} (found : s.announceFor config fromAddr k = some (nickname, endpoint, seen)) :
    ∃ payload source tcpPort, s = .receive payload source seen ∧
      DiscoveryMessage.fromSlice (payload.take bufferSize) = .ok (.announce nickname tcpPort) ∧
      nickname ≠ config.nickname ∧ endpoint = SocketAddr.new source.ip tcpPort ∧ fromAddr endpoint = k := by
  cases s with
  | sweep now => cases found
  | receive payload source now =>
    simp only [DiscoveryStep.announceFor] at found
    cases accepts : accepted config payload source with
    | none => simp [accepts] at found
    | some pair =>
      obtain ⟨nickname', endpoint'⟩ := pair
      simp only [accepts] at found
      split_ifs at found with derives
      cases found
      obtain ⟨tcpPort, decoded, foreign, rfl⟩ := (accepted_eq_some config).mp accepts
      exact ⟨payload, source, tcpPort, rfl, decoded, foreign, rfl, derives⟩

theorem keysMatch_step {r : PeerRegistry} (keys : KeysMatch fromAddr r) :
    ∀ s, KeysMatch fromAddr (step config fromAddr r s)
  | .receive payload source now => by
    rw [step, listen_eq]
    split
    · exact keys.upsert now rfl
    · exact keys
  | .sweep now => keys.removeTimedOut now config.peerTimeout

theorem keysMatch_foldl_step {r : PeerRegistry} (keys : KeysMatch fromAddr r) (steps : List DiscoveryStep) :
    KeysMatch fromAddr (steps.foldl (step config fromAddr) r) := by
  induction steps generalizing r with
  | nil => exact keys
  | cons s steps ih => exact ih (keysMatch_step config fromAddr keys s)

theorem get_step_quiet (r : PeerRegistry) {k : PeerId} {s : DiscoveryStep}
    (quiet : s.announceFor config fromAddr k = none) :
    (step config fromAddr r s).get k = (r.get k).filter fun p => !s.expires config.peerTimeout p.lastSeen := by
  cases s with
  | sweep now =>
    rw [step, get_removeTimedOut]
    simp only [DiscoveryStep.expires, decide_not]
  | receive payload source now =>
    have unfiltered : ∀ o : Option Peer, o = o.filter fun _ => true := fun o => by cases o <;> rfl
    rw [step, listen_eq]
    simp only [DiscoveryStep.expires, Bool.not_false]
    simp only [DiscoveryStep.announceFor] at quiet
    split
    · next nickname endpoint found =>
      rw [found] at quiet
      simp only [ite_eq_right_iff, reduceCtorEq, imp_false] at quiet
      rw [get_upsert, if_neg (show k ≠ (Peer.new fromAddr nickname endpoint now).id from Ne.symm quiet)]
      exact unfiltered _
    · exact unfiltered _

theorem get_step_announce {r : PeerRegistry} (keys : KeysMatch fromAddr r) {k : PeerId}
    {s : DiscoveryStep} {nickname : String} {endpoint : SocketAddr} {seen : Instant}
    (found : s.announceFor config fromAddr k = some (nickname, endpoint, seen)) :
    (step config fromAddr r s).get k = some ⟨k, nickname, endpoint, seen⟩ := by
  obtain ⟨payload, source, tcpPort, rfl, decoded, foreign, rfl, derives⟩ := announceFor_spec config fromAddr found
  have accepts : accepted config payload source = some (nickname, SocketAddr.new source.ip tcpPort) :=
    (accepted_eq_some config).mpr ⟨tcpPort, decoded, foreign, rfl⟩
  rw [step, listen_eq, accepts, get_upsert,
    if_pos (show k = (Peer.new fromAddr nickname (SocketAddr.new source.ip tcpPort) seen).id from derives.symm)]
  simp only [Peer.new, derives]
  cases old : r.get k with
  | none => rfl
  | some existing =>
    have same : existing.id = k := (keys k existing old).1
    simp only [Option.elim, refreshed, Peer.refresh, same]

theorem get_foldl_quiet (r : PeerRegistry) {k : PeerId} {after : List DiscoveryStep}
    (quiet : ∀ s ∈ after, s.announceFor config fromAddr k = none) :
    (after.foldl (step config fromAddr) r).get k =
      (r.get k).filter fun p => !after.any (·.expires config.peerTimeout p.lastSeen) := by
  induction after generalizing r with
  | nil =>
    rw [List.foldl_nil]
    cases r.get k <;> rfl
  | cons s after ih =>
    simp only [List.forall_mem_cons] at quiet
    rw [List.foldl_cons, ih _ quiet.2, get_step_quiet config fromAddr r quiet.1]
    cases r.get k with
    | none => rfl
    | some p => cases expired : s.expires config.peerTimeout p.lastSeen <;> simp [Option.filter, expired]

theorem exists_last_announce {k : PeerId} {steps : List DiscoveryStep}
    (some_announce : ∃ s ∈ steps, s.announceFor config fromAddr k ≠ none) :
    ∃ pre s after a, steps = pre ++ s :: after ∧ s.announceFor config fromAddr k = some a ∧
      ∀ s' ∈ after, s'.announceFor config fromAddr k = none := by
  induction steps with
  | nil => simp at some_announce
  | cons s steps ih =>
    by_cases later : ∃ s' ∈ steps, s'.announceFor config fromAddr k ≠ none
    · obtain ⟨pre, s', after, a, rfl, found, quiet⟩ := ih later
      exact ⟨s :: pre, s', after, a, rfl, found, quiet⟩
    · push_neg at later
      obtain ⟨s', member, announces⟩ := some_announce
      have here : s' = s := by
        rcases List.mem_cons.mp member with same | inside
        · exact same
        · exact absurd (later s' inside) announces
      obtain ⟨a, found⟩ := Option.ne_none_iff_exists'.mp (here ▸ announces)
      exact ⟨[], s, steps, a, rfl, found, later⟩

theorem get_run_of_quiet {steps : List DiscoveryStep} {k : PeerId}
    (quiet : ∀ s ∈ steps, s.announceFor config fromAddr k = none) : (run config fromAddr steps).get k = none := by
  rw [run, get_foldl_quiet config fromAddr _ quiet]
  rfl

theorem get_run_of_last {pre after : List DiscoveryStep} {s : DiscoveryStep} {k : PeerId}
    {nickname : String} {endpoint : SocketAddr} {seen : Instant}
    (found : s.announceFor config fromAddr k = some (nickname, endpoint, seen))
    (quiet : ∀ s' ∈ after, s'.announceFor config fromAddr k = none) :
    (run config fromAddr (pre ++ s :: after)).get k =
      if after.any (·.expires config.peerTimeout seen) then none else some ⟨k, nickname, endpoint, seen⟩ := by
  rw [run, List.foldl_append, List.foldl_cons, get_foldl_quiet config fromAddr _ quiet,
    get_step_announce config fromAddr (keysMatch_foldl_step config fromAddr KeysMatch.new pre) found]
  cases expired : after.any (·.expires config.peerTimeout seen) <;> simp [Option.filter, expired]

/-- A record in the registry comes from an accepted datagram of the run: an `Announce` from
    another nickname, stored at the sender's IP and the announced port, at the time it was
    received. -/
theorem get_run_some {steps : List DiscoveryStep} {k : PeerId} {p : Peer}
    (stored : (run config fromAddr steps).get k = some p) :
    p.id = k ∧ p.nickname ≠ config.nickname ∧
      ∃ payload source tcpPort, DiscoveryStep.receive payload source p.lastSeen ∈ steps ∧
        DiscoveryMessage.fromSlice (payload.take bufferSize) = .ok (.announce p.nickname tcpPort) ∧
        p.addr = SocketAddr.new source.ip tcpPort ∧ fromAddr p.addr = k := by
  by_cases quiet : ∀ s ∈ steps, s.announceFor config fromAddr k = none
  · rw [get_run_of_quiet config fromAddr quiet] at stored
    cases stored
  · push_neg at quiet
    obtain ⟨pre, s, after, ⟨nickname, endpoint, seen⟩, rfl, found, later⟩ :=
      exists_last_announce config fromAddr quiet
    obtain ⟨payload, source, tcpPort, rfl, decoded, foreign, rfl, derives⟩ :=
      announceFor_spec config fromAddr found
    rw [get_run_of_last config fromAddr found later] at stored
    split_ifs at stored
    cases stored
    exact ⟨rfl, foreign, payload, source, tcpPort, List.mem_append_right pre (List.mem_cons_self _ _),
      decoded, rfl, derives⟩

/-- The registry after any run of the engine from an empty one is the directory the accepted
    announces describe: `k` is present exactly when some accepted datagram's endpoint derives it
    and no sweep after the last of them found it expired, and its record then holds that
    datagram's nickname, endpoint and time. So no record has the local nickname, and every address
    is a sender's IP with the port it announced. The steps' times need not be in order. -/
theorem run_eq_directory (steps : List DiscoveryStep) (k : PeerId) :
    ((∀ s ∈ steps, s.announceFor config fromAddr k = none) → (run config fromAddr steps).get k = none) ∧
    (∀ pre s after nickname endpoint seen, steps = pre ++ s :: after →
      s.announceFor config fromAddr k = some (nickname, endpoint, seen) →
      (∀ s' ∈ after, s'.announceFor config fromAddr k = none) →
      (run config fromAddr steps).get k =
        if after.any (·.expires config.peerTimeout seen) then none else some ⟨k, nickname, endpoint, seen⟩) ∧
    ∀ p, (run config fromAddr steps).get k = some p →
      p.id = k ∧ p.nickname ≠ config.nickname ∧
      ∃ payload source tcpPort, DiscoveryStep.receive payload source p.lastSeen ∈ steps ∧
        DiscoveryMessage.fromSlice (payload.take bufferSize) = .ok (.announce p.nickname tcpPort) ∧
        p.addr = SocketAddr.new source.ip tcpPort ∧ fromAddr p.addr = k :=
  ⟨get_run_of_quiet config fromAddr,
    fun _ _ _ _ _ _ split found quiet => split ▸ get_run_of_last config fromAddr found quiet,
    fun _ => get_run_some config fromAddr⟩

end

end Parlance.Discovery
