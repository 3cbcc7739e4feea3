import Parlance.Core.Str

namespace Parlance.Validation

open Str

inductive NicknameValidationError where
  | empty
  | tooShort (min : Nat)
  | tooLong (max actual : Nat)
  | whitespaceOnly
  | leadingOrTrailingWhitespace
  | invalidCharacters
  | containsNewline
deriving DecidableEq, Repr

def NicknameValidationError.message : NicknameValidationError → String
  | .empty => "Nickname cannot be empty"
  | .tooShort min => "Nickname must be at least " ++ toString min ++ " characters long"
  | .tooLong max actual =>
    "Nickname must be at most " ++ toString max ++ " characters long (got " ++ toString actual ++ ")"
  | .whitespaceOnly => "Nickname cannot be only whitespace"
  | .leadingOrTrailingWhitespace => "Nickname cannot have leading or trailing whitespace"
  | .invalidCharacters => "Nickname contains invalid characters"
  | .containsNewline => "Nickname cannot contain newlines"

def minLength : Nat := 1

def maxLength : Nat := 32

def validate (nickname : String) : Except NicknameValidationError Unit :=
  if nickname.isEmpty then .error .empty
  else if len nickname < minLength then .error (.tooShort minLength)
  else if len nickname > maxLength then .error (.tooLong maxLength (len nickname))
  else if (trim nickname).isEmpty then .error .whitespaceOnly
  else if nickname ≠ trim nickname then .error .leadingOrTrailingWhitespace
  else if '\n' ∈ nickname.data ∨ '\r' ∈ nickname.data then .error .containsNewline
  else if nickname.data.any isControl then .error .invalidCharacters
  else .ok ()

theorem len_empty : len "" = 0 := rfl

theorem validate_eq_ok_iff (nickname : String) :
    validate nickname = .ok () ↔
      1 ≤ len nickname ∧ len nickname ≤ 32 ∧ trim nickname = nickname ∧
        ∀ c ∈ nickname.data, isControl c = false := by
  unfold validate
  split_ifs with empty short long blank untrimmed newline control
  · simp [(String.isEmpty_iff _).mp empty, len_empty]
  · simp only [minLength] at short
    simp
    omega
  · simp only [maxLength] at long
    simp
    omega
  · simp only [String.isEmpty_iff] at empty blank
    simp only [false_iff, not_and]
    intro _ _ same
    exact (empty (same ▸ blank)).elim
  · simp only [false_iff, not_and]
    intro _ _ same
    exact (untrimmed same.symm).elim
  · simp only [false_iff, not_and, not_forall]
    intro _ _ _
    rcases newline with member | member
    · exact ⟨_, member, by decide⟩
    · exact ⟨_, member, by decide⟩
  · obtain ⟨c, member, bad⟩ := List.any_eq_true.mp control
    simp only [false_iff, not_and, not_forall]
    exact fun _ _ _ => ⟨c, member, by simp [bad]⟩
  · simp only [minLength, maxLength, not_lt, ne_eq, not_not, Bool.not_eq_true] at short long untrimmed control
    simp only [true_iff]
    exact ⟨short, long, untrimmed.symm, fun c member => by simpa using List.any_eq_false.mp control c member⟩

/-- A 17-character nickname of `é` is 34 bytes: `validate` refuses it as longer than 32
    "characters". -/
theorem validate_rejects_seventeen_chars :
    (⟨List.replicate 17 'é'⟩ : String).length = 17 ∧
      validate ⟨List.replicate 17 'é'⟩ = .error (.tooLong 32 34) ∧
      (NicknameValidationError.tooLong 32 34).message =
        "Nickname must be at most 32 characters long (got 34)" := by
  exact ⟨rfl, by decide, rfl⟩

end Parlance.Validation
