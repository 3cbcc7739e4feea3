import Mathlib.Data.List.Nodup

namespace Parlance

/-- `std::collections::HashMap` as its entries in iteration order. The order is the table's
    and means nothing; keys are unique. -/
structure HashMap (K V : Type) where
  entries : List (K × V)
  nodup : (entries.map Prod.fst).Nodup

namespace HashMap

variable {K V : Type} [DecidableEq K]

def empty : HashMap K V := ⟨[], List.nodup_nil⟩

def get (m : HashMap K V) (k : K) : Option V :=
  (m.entries.find? fun e => e.1 = k).map Prod.snd

def len (m : HashMap K V) : Nat := m.entries.length

def values (m : HashMap K V) : List V := m.entries.map Prod.snd

def modifyEntry (k : K) (f : V → V) (e : K × V) : K × V :=
  if e.1 = k then (e.1, f e.2) else e

@[simp] theorem modifyEntry_fst (k : K) (f : V → V) (e : K × V) : (modifyEntry k f e).1 = e.1 := by
  unfold modifyEntry
  split <;> rfl

def modify (m : HashMap K V) (k : K) (f : V → V) : HashMap K V :=
  ⟨m.entries.map (modifyEntry k f), by
    have keys : (m.entries.map (modifyEntry k f)).map Prod.fst = m.entries.map Prod.fst := by
      simp only [List.map_map]
      exact List.map_congr_left fun e _ => modifyEntry_fst k f e
    exact keys ▸ m.nodup⟩

def insert (m : HashMap K V) (k : K) (v : V) : HashMap K V :=
  if present : k ∈ m.entries.map Prod.fst then m.modify k fun _ => v
  else ⟨m.entries ++ [(k, v)], by simpa [List.nodup_append, present] using m.nodup⟩

def remove (m : HashMap K V) (k : K) : Option V × HashMap K V :=
  (m.get k, ⟨m.entries.filter (fun e => e.1 ≠ k), m.nodup.sublist ((List.filter_sublist _).map _)⟩)

theorem mem_of_get {m : HashMap K V} {k : K} {v : V} (found : m.get k = some v) :
    (k, v) ∈ m.entries := by
  obtain ⟨e, hit, rfl⟩ := Option.map_eq_some'.mp found
  have key : e.1 = k := by simpa using List.find?_some hit
  exact key ▸ List.mem_of_find?_eq_some hit

theorem get_of_mem {m : HashMap K V} {k : K} {v : V} (member : (k, v) ∈ m.entries) :
    m.get k = some v := by
  have present : (m.entries.find? fun e => decide (e.1 = k)).isSome :=
    List.find?_isSome.mpr ⟨(k, v), member, by simp⟩
  obtain ⟨e, hit⟩ := Option.isSome_iff_exists.mp present
  have key : e.1 = k := by simpa using List.find?_some hit
  have same : e = (k, v) :=
    List.inj_on_of_nodup_map m.nodup (List.mem_of_find?_eq_some hit) member key
  simp only [get, hit, same, Option.map_some']

theorem get_eq_some_iff {m : HashMap K V} {k : K} {v : V} : m.get k = some v ↔ (k, v) ∈ m.entries :=
  ⟨mem_of_get, get_of_mem⟩

theorem get_eq_none_iff {m : HashMap K V} {k : K} : m.get k = none ↔ ∀ v, (k, v) ∉ m.entries := by
  simp only [get, Option.map_eq_none', List.find?_eq_none, decide_eq_true_eq]
  exact ⟨fun absent v member => absent _ member rfl, fun absent e member key => absent e.2 (key ▸ member)⟩

omit [DecidableEq K] in
theorem key_unique {m : HashMap K V} {e e' : K × V} (member : e ∈ m.entries)
    (member' : e' ∈ m.entries) (key : e.1 = e'.1) : e = e' :=
  List.inj_on_of_nodup_map m.nodup member member' key

@[simp] theorem get_empty (k : K) : (empty : HashMap K V).get k = none := rfl

@[simp] theorem get_modify (m : HashMap K V) (k k' : K) (f : V → V) :
    (m.modify k f).get k' = if k' = k then (m.get k).map f else m.get k' := by
  simp only [get, modify, List.find?_map]
  have fst : ((fun e : K × V => decide (e.1 = k')) ∘ modifyEntry k f) = fun e => decide (e.1 = k') := by
    funext e
    simp
  rw [fst]
  split
  · subst k'
    cases hit : m.entries.find? (fun e => decide (e.1 = k)) with
    | none => rfl
    | some e =>
      have key : e.1 = k := by simpa using List.find?_some hit
      simp [modifyEntry, key]
  · cases hit : m.entries.find? (fun e => decide (e.1 = k')) with
    | none => rfl
    | some e =>
      have key : e.1 = k' := by simpa using List.find?_some hit
      simp [modifyEntry, key, *]

@[simp] theorem get_insert (m : HashMap K V) (k k' : K) (v : V) :
    (m.insert k v).get k' = if k' = k then some v else m.get k' := by
  unfold insert
  split
  · rename_i present
    obtain ⟨e, member, key⟩ := List.mem_map.mp present
    have found : m.get k = some e.2 := get_of_mem (key ▸ member)
    simp [found]
  · rename_i absent
    have missing : m.entries.find? (fun e => decide (e.1 = k)) = none :=
      List.find?_eq_none.mpr fun e member key =>
        absent (List.mem_map.mpr ⟨e, member, by simpa using key⟩)
    simp only [get, List.find?_append]
    split
    · subst k'
      simp [missing]
    · rename_i other
      simp [Ne.symm other]

@[simp] theorem remove_fst (m : HashMap K V) (k : K) : (m.remove k).1 = m.get k := rfl

@[simp] theorem get_remove (m : HashMap K V) (k k' : K) :
    (m.remove k).2.get k' = if k' = k then none else m.get k' := by
  simp only [remove, get, List.find?_filter]
  split
  · subst k'
    simp only [Option.map_eq_none']
    exact List.find?_eq_none.mpr fun e _ => by simp
  · rename_i other
    congr 1
    congr 1
    funext e
    by_cases key : e.1 = k' <;> simp [key, other]

theorem filterMap_get_keys (m : HashMap K V) (sub : List (K × V)) (inside : ∀ e ∈ sub, e ∈ m.entries) :
    (sub.map Prod.fst).filterMap m.get = sub.map Prod.snd := by
  induction sub with
  | nil => rfl
  | cons e sub ih =>
    have found : m.get e.1 = some e.2 := get_of_mem (inside e (List.mem_cons_self _ _))
    simp [found, ih fun e' member => inside e' (List.mem_cons_of_mem _ member)]

omit [DecidableEq K] in
theorem key_mem_filter_iff (m : HashMap K V) (p : K × V → Bool) {e : K × V} (member : e ∈ m.entries) :
    e.1 ∈ (m.entries.filter p).map Prod.fst ↔ p e := by
  constructor
  · intro selected
    obtain ⟨e', chosen, key⟩ := List.mem_map.mp selected
    obtain rfl := m.key_unique (List.mem_of_mem_filter chosen) member key
    exact (List.mem_filter.mp chosen).2
  · exact fun holds => List.mem_map.mpr ⟨e, List.mem_filter.mpr ⟨member, holds⟩, rfl⟩

omit [DecidableEq K] in
theorem nodup_filter_keys (m : HashMap K V) (p : K × V → Bool) :
    ((m.entries.filter p).map Prod.fst).Nodup :=
  m.nodup.sublist ((List.filter_sublist _).map _)

end HashMap

end Parlance
