import Parlance.Network.Discovery.Engine
import Parlance.Network.Messaging.Connection

namespace Parlance

open Json Discovery Messaging PeerRegistry

theorem announceFor_announcement {a b : DiscoveryConfig} (fromAddr : SocketAddr → PeerId)
    (distinct : a.nickname ≠ b.nickname) (fits : (announcement a).length ≤ bufferSize)
    (source : SocketAddr) (seen : Instant) :
    (DiscoveryStep.receive (announcement a) source seen).announceFor b fromAddr
        (fromAddr (SocketAddr.new source.ip a.tcpPort)) =
      some (a.nickname, SocketAddr.new source.ip a.tcpPort, seen) := by
  have accepts : accepted b (announcement a) source = some (a.nickname, SocketAddr.new source.ip a.tcpPort) :=
    (accepted_eq_some b).mpr
      ⟨a.tcpPort, by rw [List.take_of_length_le fits]; exact fromSlice_toVec _, distinct, rfl⟩
  simp [DiscoveryStep.announceFor, accepts]

/-- Discovery and messaging together: a peer `b` that heard `a`'s announcement, not expired by a
    sweep since and the only record of `a`'s nickname, reaches `a` by nickname. When the network
    lets every operation through, `send_message` succeeds, connects to the IP the announcement
    came from at the port `a` announced, and `a`'s handler receives exactly the message sent. -/
theorem announced_peer_receives_message (a b : DiscoveryConfig) (fromAddr : SocketAddr → PeerId)
    (pre after : List DiscoveryStep) (source : SocketAddr) (seen : Instant) (registry : PeerRegistry)
    (content : String) (now : I64) {ε : Type} (net : NetOp → Except ε Unit)
    (built : registry = run b fromAddr (pre ++ .receive (announcement a) source seen :: after))
    (distinct : a.nickname ≠ b.nickname) (fits : (announcement a).length ≤ bufferSize)
    (quiet : ∀ s ∈ after, s.announceFor b fromAddr (fromAddr (SocketAddr.new source.ip a.tcpPort)) = none)
    (fresh : after.any (·.expires b.peerTimeout seen) = false)
    (unique : ∀ q ∈ registry.getAll, q.nickname = a.nickname →
      fromAddr q.addr = fromAddr (SocketAddr.new source.ip a.tcpPort))
    (reliable : ∀ op, net op = .ok ()) :
    (sendMessage b.nickname registry a.nickname content now net).result = .ok () ∧
      (sendMessage b.nickname registry a.nickname content now net).events = [.sent a.nickname content] ∧
      (sendMessage b.nickname registry a.nickname content now net).ops =
        deliveryOps (SocketAddr.new source.ip a.tcpPort) ⟨b.nickname, content, now⟩ ∧
      handleConnection true ((sendMessage b.nickname registry a.nickname content now net).ops.flatMap
        NetOp.written) = [.received ⟨b.nickname, content, now⟩] := by
  have stored : registry.get (fromAddr (SocketAddr.new source.ip a.tcpPort)) =
      some ⟨fromAddr (SocketAddr.new source.ip a.tcpPort), a.nickname, SocketAddr.new source.ip a.tcpPort, seen⟩ := by
    rw [built, get_run_of_last b fromAddr (announceFor_announcement fromAddr distinct fits source seen) quiet,
      fresh]
    rfl
  have keys : KeysMatch fromAddr registry := built ▸ keysMatch_foldl_step b fromAddr KeysMatch.new _
  have outcome := sendMessage_result_ops net b.nickname a.nickname content registry now
  rw [deliver_found net (keys.find_nickname stored unique), perform_reliable net reliable] at outcome
  obtain ⟨succeeded, attempted⟩ := Prod.mk.inj outcome
  refine ⟨succeeded.trans rfl, by rw [sendMessage_events, succeeded]; rfl, attempted, ?_⟩
  rw [attempted, written_deliveryOps, handleConnection_frame, handleConnection_nil]

/-- Bob, his peer timeout 15 ns, hears Alice announce port 9000 from `10.0.0.1` at 1 ns and sends
    her `"hi"`. -/
theorem bob_reaches_alice :
    (announcement ⟨"alice", 9000, 15⟩).length ≤ bufferSize ∧
      (∀ q ∈ (run ⟨"bob", 9001, 15⟩ (fun addr => ⟨BitVec.ofNat 128 addr.port.toNat⟩)
          [.receive (announcement ⟨"alice", 9000, 15⟩) (.v4 0x0A000001 5000) 1]).getAll,
        q.nickname = "alice" → (⟨BitVec.ofNat 128 q.addr.port.toNat⟩ : PeerId) = ⟨BitVec.ofNat 128 9000⟩) ∧
      handleConnection true ((sendMessage "bob" (run ⟨"bob", 9001, 15⟩
          (fun addr => ⟨BitVec.ofNat 128 addr.port.toNat⟩)
          [.receive (announcement ⟨"alice", 9000, 15⟩) (.v4 0x0A000001 5000) 1]) "alice" "hi" ⟨0, by decide⟩
          (fun _ => (.ok () : Except Unit Unit))).ops.flatMap NetOp.written) =
        [.received ⟨"bob", "hi", ⟨0, by decide⟩⟩] :=
  ⟨by decide, by decide, (announced_peer_receives_message ⟨"alice", 9000, 15⟩ ⟨"bob", 9001, 15⟩
    (fun addr => ⟨BitVec.ofNat 128 addr.port.toNat⟩) [] [] (.v4 0x0A000001 5000) 1 _ "hi" ⟨0, by decide⟩
    (fun _ => .ok ()) rfl (by decide) (by decide) (fun _ member => absurd member (List.not_mem_nil _)) rfl
    (by decide) fun _ => rfl).2.2.2⟩

end Parlance
