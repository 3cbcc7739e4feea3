import Parlance.Core.HashMap

namespace Parlance

inductive IpAddr where
  | v4 (octets : BitVec 32)
  | v6 (octets : BitVec 128)
deriving DecidableEq, Repr

inductive SocketAddr where
  | v4 (ip : BitVec 32) (port : UInt16)
  | v6 (ip : BitVec 128) (port : UInt16) (flowinfo scopeId : UInt32)
deriving DecidableEq, Repr

def SocketAddr.ip : SocketAddr → IpAddr
  | .v4 ip _ => .v4 ip
  | .v6 ip _ _ _ => .v6 ip

def SocketAddr.port : SocketAddr → UInt16
  | .v4 _ port => port
  | .v6 _ port _ _ => port

def SocketAddr.new : IpAddr → UInt16 → SocketAddr
  | .v4 ip, port => .v4 ip port
  | .v6 ip, port => .v6 ip port 0 0

@[simp] theorem SocketAddr.ip_new (ip : IpAddr) (port : UInt16) : (SocketAddr.new ip port).ip = ip := by
  cases ip <;> rfl

@[simp] theorem SocketAddr.port_new (ip : IpAddr) (port : UInt16) :
    (SocketAddr.new ip port).port = port := by
  cases ip <;> rfl

/-- `std::time::Instant`, as nanoseconds of the monotonic clock. -/
abbrev Instant := Nat

abbrev Duration := Nat

structure PeerId where
  uuid : BitVec 128
deriving DecidableEq, Repr

structure Peer where
  id : PeerId
  nickname : String
  addr : SocketAddr
  lastSeen : Instant
deriving DecidableEq, Repr

/-- `Peer::new` at `Instant::now() = now`. `PeerId::from_addr` is a UUIDv5 of the address's
    display text, computed by library code: it is the parameter `fromAddr`. -/
def Peer.new (fromAddr : SocketAddr → PeerId) (nickname : String) (addr : SocketAddr)
    (now : Instant) : Peer :=
  ⟨fromAddr addr, nickname, addr, now⟩

def Peer.refresh (peer : Peer) (now : Instant) : Peer := { peer with lastSeen := now }

/-- `Instant::elapsed` saturates at zero, as `Nat` subtraction does. -/
def Peer.isTimedOut (peer : Peer) (now : Instant) (timeout : Duration) : Bool :=
  now - peer.lastSeen > timeout

/-- The map behind `Arc<RwLock<..>>`. Every operation holds the lock for its whole body, so
    operations are atomic and a run is a sequence of them. -/
structure PeerRegistry where
  peers : HashMap PeerId Peer

namespace PeerRegistry

def new : PeerRegistry := ⟨.empty⟩

def refreshed (now : Instant) (peer existing : Peer) : Peer :=
  { existing.refresh now with nickname := peer.nickname, addr := peer.addr }

def upsert (r : PeerRegistry) (now : Instant) (peer : Peer) : PeerRegistry :=
  match r.peers.get peer.id with
  | some _ => ⟨r.peers.modify peer.id (refreshed now peer)⟩
  | none => ⟨r.peers.insert peer.id peer⟩

def remove (r : PeerRegistry) (id : PeerId) : PeerRegistry := ⟨(r.peers.remove id).2⟩

def removeEach : List PeerId → List Peer → HashMap PeerId Peer → List Peer × HashMap PeerId Peer
  | [], removed, peers => (removed, peers)
  | id :: ids, removed, peers =>
    match peers.remove id with
    | (some peer, peers) => removeEach ids (removed ++ [peer]) peers
    | (none, peers) => removeEach ids removed peers

def removeTimedOut (r : PeerRegistry) (now : Instant) (timeout : Duration) :
    List Peer × PeerRegistry :=
  let timedOut := (r.peers.entries.filter fun e => e.2.isTimedOut now timeout).map Prod.fst
  let (removed, peers) := removeEach timedOut [] r.peers
  (removed, ⟨peers⟩)

def getAll (r : PeerRegistry) : List Peer := r.peers.values

def get (r : PeerRegistry) (id : PeerId) : Option Peer := r.peers.get id

def count (r : PeerRegistry) : Nat := r.peers.len

theorem removeEach_eq (ids : List PeerId) (distinct : ids.Nodup) (removed : List Peer)
    (peers : HashMap PeerId Peer) :
    (removeEach ids removed peers).1 = removed ++ ids.filterMap peers.get ∧
      (removeEach ids removed peers).2.entries = peers.entries.filter fun e => e.1 ∉ ids := by
  induction ids generalizing removed peers with
  | nil => simp [removeEach]
  | cons id ids ih =>
    obtain ⟨fresh, distinct⟩ := List.nodup_cons.mp distinct
    have others : ids.filterMap (peers.remove id).2.get = ids.filterMap peers.get :=
      List.filterMap_congr fun k member => by
        simp [HashMap.get_remove, show k ≠ id from fun same => fresh (same ▸ member)]
    have kept : ((peers.remove id).2.entries.filter fun e => e.1 ∉ ids) =
        peers.entries.filter fun e => e.1 ∉ id :: ids := by
      simp only [HashMap.remove, List.filter_filter, List.mem_cons, not_or]
      congr 1
      funext e
      simp [Bool.and_comm]
    have pair : peers.remove id = (peers.get id, (peers.remove id).2) := rfl
    cases found : peers.get id with
    | none =>
      obtain ⟨first, second⟩ := ih distinct removed (peers.remove id).2
      rw [removeEach, pair, found]
      simp only [List.filterMap_cons, found]
      exact ⟨first.trans (by rw [others]), second.trans kept⟩
    | some peer =>
      obtain ⟨first, second⟩ := ih distinct (removed ++ [peer]) (peers.remove id).2
      rw [removeEach, pair, found]
      simp only [List.filterMap_cons, found]
      exact ⟨first.trans (by rw [others]; simp), second.trans kept⟩

/-- `remove_timed_out` returns exactly the expired records, in iteration order, and keeps exactly
    the others, unchanged. -/
theorem removeTimedOut_spec (r : PeerRegistry) (now : Instant) (timeout : Duration) :
    (r.removeTimedOut now timeout).1 =
        (r.peers.entries.filter fun e => now - e.2.lastSeen > timeout).map Prod.snd ∧
      (r.removeTimedOut now timeout).2.peers.entries =
        r.peers.entries.filter (fun e => ¬ now - e.2.lastSeen > timeout) ∧
      ((r.removeTimedOut now timeout).1 ++ (r.removeTimedOut now timeout).2.getAll).Perm
        r.getAll := by
  let expired : PeerId × Peer → Bool := fun e => e.2.isTimedOut now timeout
  obtain ⟨removed, remaining⟩ := removeEach_eq _ (r.peers.nodup_filter_keys expired) [] r.peers
  have returned : (r.removeTimedOut now timeout).1 = (r.peers.entries.filter expired).map Prod.snd :=
    removed.trans (by
      rw [List.nil_append, HashMap.filterMap_get_keys]
      exact fun e member => List.mem_of_mem_filter member)
  have kept : (r.removeTimedOut now timeout).2.peers.entries =
      r.peers.entries.filter fun e => ¬ now - e.2.lastSeen > timeout :=
    remaining.trans (List.filter_congr fun e member => decide_eq_decide.mpr
      (not_congr ((r.peers.key_mem_filter_iff expired member).trans decide_eq_true_iff)))
  refine ⟨returned, kept, ?_⟩
  rw [getAll, getAll, HashMap.values, HashMap.values, returned, kept, ← List.map_append]
  simp only [decide_not]
  exact (List.filter_append_perm expired r.peers.entries).map Prod.snd

theorem get_upsert (r : PeerRegistry) (now : Instant) (peer : Peer) (k : PeerId) :
    (r.upsert now peer).get k =
      if k = peer.id then some ((r.get peer.id).elim peer (refreshed now peer)) else r.get k := by
  unfold upsert get
  cases found : r.peers.get peer.id <;> simp [found]

theorem get_remove (r : PeerRegistry) (id k : PeerId) :
    (r.remove id).get k = if k = id then none else r.get k :=
  HashMap.get_remove r.peers id k

theorem get_removeTimedOut (r : PeerRegistry) (now : Instant) (timeout : Duration) (k : PeerId) :
    (r.removeTimedOut now timeout).2.get k =
      (r.get k).filter fun p => ¬ now - p.lastSeen > timeout := by
  apply Option.ext
  intro p
  simp only [Option.mem_def, get, HashMap.get_eq_some_iff, (removeTimedOut_spec r now timeout).2.1, List.mem_filter,
    Option.filter_eq_some, decide_eq_true_eq]

end PeerRegistry

end Parlance
