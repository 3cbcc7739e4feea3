import Parlance.Core.Peer

namespace Parlance

open PeerRegistry

def KeysMatch (fromAddr : SocketAddr → PeerId) (r : PeerRegistry) : Prop :=
  ∀ k p, r.get k = some p → p.id = k ∧ p.id = fromAddr p.addr

inductive RegistryOp where
  | upsert (now : Instant) (nickname : String) (addr : SocketAddr) (lastSeen : Instant)
  | remove (id : PeerId)
  | removeTimedOut (now : Instant) (timeout : Duration)

def RegistryOp.apply (fromAddr : SocketAddr → PeerId) : RegistryOp → PeerRegistry → PeerRegistry
  | .upsert now nickname addr lastSeen, r => r.upsert now (Peer.new fromAddr nickname addr lastSeen)
  | .remove id, r => r.remove id
  | .removeTimedOut now timeout, r => (r.removeTimedOut now timeout).2

namespace KeysMatch

variable {fromAddr : SocketAddr → PeerId} {r : PeerRegistry}

theorem new : KeysMatch fromAddr PeerRegistry.new := by
  intro k p found
  cases found

theorem upsert (keys : KeysMatch fromAddr r) (now : Instant) {peer : Peer}
    (derived : peer.id = fromAddr peer.addr) : KeysMatch fromAddr (r.upsert now peer) := by
  intro k p found
  rw [get_upsert] at found
  split at found
  · subst k
    cases old : r.get peer.id with
    | none =>
      simp only [old, Option.elim, Option.some.injEq] at found
      exact found ▸ ⟨rfl, derived⟩
    | some existing =>
      simp only [old, Option.elim, Option.some.injEq] at found
      subst found
      exact ⟨(keys _ _ old).1, (keys _ _ old).1.trans derived⟩
  · exact keys k p found

theorem remove (keys : KeysMatch fromAddr r) (id : PeerId) : KeysMatch fromAddr (r.remove id) := by
  intro k p found
  rw [get_remove] at found
  split at found
  · cases found
  · exact keys k p found

theorem removeTimedOut (keys : KeysMatch fromAddr r) (now : Instant) (timeout : Duration) :
    KeysMatch fromAddr (r.removeTimedOut now timeout).2 := by
  intro k p found
  rw [get_removeTimedOut, Option.filter_eq_some] at found
  exact keys k p found.1

theorem apply (keys : KeysMatch fromAddr r) : ∀ op : RegistryOp, KeysMatch fromAddr (op.apply fromAddr r)
  | .upsert now _ _ _ => keys.upsert now rfl
  | .remove id => keys.remove id
  | .removeTimedOut now timeout => keys.removeTimedOut now timeout

theorem foldl (ops : List RegistryOp) (keys : KeysMatch fromAddr r) :
    KeysMatch fromAddr (ops.foldl (fun r op => op.apply fromAddr r) r) := by
  induction ops generalizing r with
  | nil => exact keys
  | cons op ops ih => exact ih (keys.apply op)

theorem entries (keys : KeysMatch fromAddr r) {e : PeerId × Peer} (member : e ∈ r.peers.entries) :
    e.1 = e.2.id ∧ e.2.id = fromAddr e.2.addr := by
  obtain ⟨same, derived⟩ := keys e.1 e.2 (HashMap.get_of_mem member)
  exact ⟨same.symm, derived⟩

theorem get_of_mem_getAll (keys : KeysMatch fromAddr r) {p : Peer} (member : p ∈ r.getAll) :
    r.get p.id = some p := by
  obtain ⟨⟨k, q⟩, inside, rfl⟩ := List.mem_map.mp member
  have found : r.get k = some q := HashMap.get_of_mem inside
  rw [(keys k q found).1]
  exact found

theorem find_nickname (keys : KeysMatch fromAddr r) {k : PeerId} {p : Peer} (found : r.get k = some p)
    (unique : ∀ q ∈ r.getAll, q.nickname = p.nickname → fromAddr q.addr = k) :
    (r.getAll.find? fun q => q.nickname = p.nickname) = some p := by
  have member : p ∈ r.getAll := List.mem_map.mpr ⟨(k, p), HashMap.mem_of_get found, rfl⟩
  obtain ⟨q, hit⟩ : ∃ q, (r.getAll.find? fun q => q.nickname = p.nickname) = some q :=
    Option.ne_none_iff_exists'.mp fun missing => by simpa using List.find?_eq_none.mp missing p member
  have named : q.nickname = p.nickname := by simpa using List.find?_some hit
  have stored := keys.get_of_mem_getAll (List.mem_of_find?_eq_some hit)
  rw [(keys _ _ stored).2.trans (unique q (List.mem_of_find?_eq_some hit) named), found] at stored
  rw [hit, Option.some_injective _ stored]

end KeysMatch

variable {fromAddr : SocketAddr → PeerId}

end Parlance
