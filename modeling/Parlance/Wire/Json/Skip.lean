import Parlance.Wire.Json.Content

namespace Parlance.Json

theorem ignoreAny_scalar {b : UInt8} (visible : isWhitespace b = false)
    (scalar : isChar b '[' = false ∧ isChar b '{' = false) (rest : List UInt8) :
    ignoreAny (b :: rest) = ignoreScalar b rest := by
  rw [ignoreAny, ignoreValue, skipWhitespace_cons rest visible]
  simp only [scalar, Bool.false_eq_true, or_self, if_false]
  cases ignoreScalar b rest <;> rfl

def resume (fuel : Nat) (acceptComma : Bool) (frame : UInt8) (scratch rest : List UInt8) :
    Except ErrorCode (List UInt8) :=
  match closeFrames (rest.length + 1) acceptComma frame scratch rest with
  | .error e => .error e
  | .ok (none, rest) => .ok rest
  | .ok (some (frame, scratch), rest) =>
    if isChar frame '{' then
      match ignoreKey rest with
      | .ok rest => ignoreValue fuel scratch (some frame) rest
      | .error e => .error e
    else ignoreValue fuel scratch (some frame) rest

end Parlance.Json
