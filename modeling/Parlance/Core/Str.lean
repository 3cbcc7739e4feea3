import Mathlib.Data.List.DropRight
import Mathlib.Data.String.Basic

instance instDecidableEqExcept {ε α : Type} [DecidableEq ε] [DecidableEq α] :
    DecidableEq (Except ε α)
  | .ok a, .ok b => decidable_of_iff (a = b) (by simp)
  | .error a, .error b => decidable_of_iff (a = b) (by simp)
  | .ok _, .error _ => isFalse (by simp)
  | .error _, .ok _ => isFalse (by simp)

namespace Parlance.Str

def isWhitespace (c : Char) : Bool :=
  let v := c.toNat
  v = 0x20 ∨ (0x09 ≤ v ∧ v ≤ 0x0D) ∨ v = 0x85 ∨ v = 0xA0 ∨ v = 0x1680 ∨
    (0x2000 ≤ v ∧ v ≤ 0x200A) ∨ v = 0x2028 ∨ v = 0x2029 ∨ v = 0x202F ∨ v = 0x205F ∨ v = 0x3000

def isControl (c : Char) : Bool :=
  c.toNat ≤ 0x1F ∨ (0x7F ≤ c.toNat ∧ c.toNat ≤ 0x9F)

def trim (s : String) : String :=
  ⟨(s.data.dropWhile isWhitespace).rdropWhile isWhitespace⟩

def len (s : String) : Nat := s.utf8ByteSize

/-- `&s[i..]` as a list of characters, or `none` where the slice would panic because `i` is
    not a character boundary. -/
def sliceFrom : List Char → Nat → Option (List Char)
  | cs, 0 => some cs
  | [], _ + 1 => none
  | c :: cs, i + 1 => if c.utf8Size ≤ i + 1 then sliceFrom cs (i + 1 - c.utf8Size) else none

def splitOnce (sep : Char) : List Char → Option (List Char × List Char)
  | [] => none
  | c :: cs => if c = sep then some ([], cs) else (splitOnce sep cs).map fun (a, b) => (c :: a, b)

def splitn2 (sep : Char) (s : List Char) : List (List Char) :=
  match splitOnce sep s with
  | some (a, b) => [a, b]
  | none => [s]

theorem splitOnce_append {sep : Char} {a : List Char} (absent : sep ∉ a) (b : List Char) :
    splitOnce sep (a ++ sep :: b) = some (a, b) := by
  induction a with
  | nil => simp [splitOnce]
  | cons c a ih =>
    simp only [List.mem_cons, not_or] at absent
    simp [splitOnce, Ne.symm absent.1, ih absent.2]

theorem splitOnce_eq_some {sep : Char} {s a b : List Char} (split : splitOnce sep s = some (a, b)) :
    s = a ++ sep :: b ∧ sep ∉ a := by
  induction s generalizing a with
  | nil => cases split
  | cons c cs ih =>
    simp only [splitOnce] at split
    split at split
    · cases split
      simp_all
    · obtain ⟨⟨a', b'⟩, rest, same⟩ := Option.map_eq_some'.mp split
      cases same
      obtain ⟨eq, absent⟩ := ih rest
      simp_all [eq_comm]

theorem splitOnce_eq_none {sep : Char} {s : List Char} : splitOnce sep s = none ↔ sep ∉ s := by
  induction s with
  | nil => simp [splitOnce]
  | cons c cs ih =>
    by_cases same : c = sep
    · simp [splitOnce, same]
    · simp [splitOnce, same, ih, Ne.symm same]

theorem sliceFrom_slash (rest : List Char) : sliceFrom ('/' :: rest) 1 = some rest := by
  simp [sliceFrom, show ('/').utf8Size = 1 by decide]

theorem trim_eq_self {cs : List Char} (first : ∀ c ∈ cs.head?, isWhitespace c = false)
    (last : ∀ c ∈ cs.getLast?, isWhitespace c = false) : trim ⟨cs⟩ = ⟨cs⟩ := by
  have front : cs.dropWhile isWhitespace = cs := by
    cases cs with
    | nil => rfl
    | cons c cs => simp [first c rfl]
  simp only [trim, front]
  congr 1
  refine List.rdropWhile_eq_self_iff.mpr fun nonempty => ?_
  simpa using last _ (List.getLast?_eq_getLast cs nonempty)

theorem trim_append_whitespace (front : List Char) {c : Char} (blank : isWhitespace c = true) :
    trim ⟨front ++ [c]⟩ = trim ⟨front⟩ := by
  simp only [trim, List.dropWhile_append]
  split
  · next empty => simp [List.isEmpty_iff.mp empty, blank]
  · rw [List.rdropWhile_concat_pos _ _ _ blank]

end Parlance.Str
