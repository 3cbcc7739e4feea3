import Parlance.Wire.Utf8
import Mathlib.Data.Nat.Digits

namespace Parlance.Json

def byte (c : Char) : UInt8 := UInt8.ofNat c.toNat

def hexDigit (n : Nat) : UInt8 := if n < 10 then UInt8.ofNat (0x30 + n) else UInt8.ofNat (0x57 + n)

def escapeByte (b : UInt8) : List UInt8 :=
  if b.toNat = 0x22 then [byte '\\', byte '"']
  else if b.toNat = 0x5C then [byte '\\', byte '\\']
  else if b.toNat = 0x08 then [byte '\\', byte 'b']
  else if b.toNat = 0x0C then [byte '\\', byte 'f']
  else if b.toNat = 0x0A then [byte '\\', byte 'n']
  else if b.toNat = 0x0D then [byte '\\', byte 'r']
  else if b.toNat = 0x09 then [byte '\\', byte 't']
  else if b.toNat < 0x20 then
    [byte '\\', byte 'u', byte '0', byte '0', hexDigit (b.toNat / 16), hexDigit (b.toNat % 16)]
  else [b]

def escape (bytes : List UInt8) : List UInt8 := bytes.flatMap escapeByte

def writeStr (s : String) : List UInt8 := byte '"' :: (escape (Utf8.encode s.data) ++ [byte '"'])

def decimalDigits : (fuel : Nat) → Nat → List Nat
  | 0, _ => []
  | fuel + 1, n => if n < 10 then [n] else decimalDigits fuel (n / 10) ++ [n % 10]

def writeU64 (n : Nat) : List UInt8 := (decimalDigits (n + 1) n).map fun d => UInt8.ofNat (0x30 + d)

def writeI64 (n : Int) : List UInt8 := if n < 0 then byte '-' :: writeU64 n.natAbs else writeU64 n.toNat

def writeMember (field : String × List UInt8) : List UInt8 := writeStr field.1 ++ byte ':' :: field.2

def writeObject : List (String × List UInt8) → List UInt8
  | [] => [byte '{', byte '}']
  | field :: fields =>
    byte '{' :: (writeMember field ++ (fields.flatMap fun f => byte ',' :: writeMember f) ++ [byte '}'])

theorem decimalDigits_eq {fuel n : Nat} (pos : 0 < n) (small : n < 10 ^ fuel) :
    decimalDigits fuel n = (Nat.digits 10 n).reverse := by
  induction fuel generalizing n with
  | zero => simp only [pow_zero] at small; omega
  | succ fuel ih =>
    rw [decimalDigits]
    split_ifs with single
    · rw [Nat.digits_of_lt 10 n (by omega) single]
      rfl
    · rw [pow_succ] at small
      rw [ih (by omega) (by omega), Nat.digits_def' (by norm_num) pos, List.reverse_cons]

theorem writeU64_eq_digits (n : Nat) :
    writeU64 n = if n = 0 then [byte '0'] else (Nat.digits 10 n).reverse.map fun d => UInt8.ofNat (0x30 + d) := by
  split_ifs with zero
  · subst zero
    rfl
  · have small : n < 10 ^ (n + 1) :=
      (Nat.lt_pow_self (by norm_num) n).trans_le (Nat.pow_le_pow_right (by norm_num) (Nat.le_succ n))
    rw [writeU64, decimalDigits_eq (Nat.pos_of_ne_zero zero) small]

theorem escape_cons (b : UInt8) (bytes : List UInt8) : escape (b :: bytes) = escapeByte b ++ escape bytes :=
  List.flatMap_cons b bytes escapeByte

@[simp] theorem toNat_byte (c : Char) : (byte c).toNat = c.toNat % 256 := BitVec.toNat_ofNat _ 8

theorem toNat_hexDigit (n : Nat) (small : n < 16) :
    (hexDigit n).toNat = if n < 10 then 0x30 + n else 0x57 + n := by
  unfold hexDigit
  split_ifs <;> simp only [Utf8.toNat_ofNat] <;> omega

theorem escapeByte_cases (b : UInt8) :
    (escapeByte b = [b] ∧ 0x20 ≤ b.toNat ∧ b.toNat ≠ 0x22 ∧ b.toNat ≠ 0x5C) ∨
      (b.toNat < 0x20 ∨ b.toNat = 0x22 ∨ b.toNat = 0x5C) ∧
        ∃ rest, escapeByte b = byte '\\' :: rest ∧ ∀ x ∈ rest, 0x20 ≤ x.toNat ∧ x.toNat < 0x80 := by
  unfold escapeByte
  by_cases quote : b.toNat = 0x22
  · rw [if_pos quote]
    exact .inr ⟨by omega, _, rfl, by decide⟩
  rw [if_neg quote]
  by_cases backslash : b.toNat = 0x5C
  · rw [if_pos backslash]
    exact .inr ⟨by omega, _, rfl, by decide⟩
  rw [if_neg backslash]
  by_cases backspace : b.toNat = 0x08
  · rw [if_pos backspace]
    exact .inr ⟨by omega, _, rfl, by decide⟩
  rw [if_neg backspace]
  by_cases formfeed : b.toNat = 0x0C
  · rw [if_pos formfeed]
    exact .inr ⟨by omega, _, rfl, by decide⟩
  rw [if_neg formfeed]
  by_cases newline : b.toNat = 0x0A
  · rw [if_pos newline]
    exact .inr ⟨by omega, _, rfl, by decide⟩
  rw [if_neg newline]
  by_cases carriage : b.toNat = 0x0D
  · rw [if_pos carriage]
    exact .inr ⟨by omega, _, rfl, by decide⟩
  rw [if_neg carriage]
  by_cases tab : b.toNat = 0x09
  · rw [if_pos tab]
    exact .inr ⟨by omega, _, rfl, by decide⟩
  rw [if_neg tab]
  by_cases control : b.toNat < 0x20
  · have high := toNat_hexDigit (b.toNat / 16) (by omega)
    have low := toNat_hexDigit (b.toNat % 16) (Nat.mod_lt _ (by norm_num))
    rw [if_pos control]
    refine .inr ⟨.inl control, _, rfl, ?_⟩
    simp only [List.forall_mem_cons, List.not_mem_nil, false_implies, implies_true, and_true]
    refine ⟨by decide, by decide, by decide, ?_, ?_⟩ <;> split_ifs at high low <;> omega
  rw [if_neg control]
  exact .inl ⟨rfl, by omega, quote, backslash⟩

theorem length_escapeByte_pos (b : UInt8) : 0 < (escapeByte b).length := by
  rcases escapeByte_cases b with ⟨raw, -⟩ | ⟨-, rest, escaped, -⟩ <;> simp [*]

theorem newline_not_mem_escapeByte (b : UInt8) : ∀ x ∈ escapeByte b, x.toNat ≠ 0x0A := by
  intro x member
  rcases escapeByte_cases b with ⟨raw, printable, -⟩ | ⟨-, rest, escaped, printable⟩
  · rw [raw, List.mem_singleton] at member
    exact member ▸ (by omega)
  · rw [escaped, List.mem_cons] at member
    rcases member with rfl | inside
    · decide
    · have := printable x inside
      omega

theorem newline_not_mem_escape (bytes : List UInt8) : ∀ x ∈ escape bytes, x.toNat ≠ 0x0A := by
  intro x member
  obtain ⟨b, -, found⟩ := List.mem_flatMap.mp member
  exact newline_not_mem_escapeByte b x found

theorem newline_not_mem_writeStr (s : String) : ∀ x ∈ writeStr s, x.toNat ≠ 0x0A := by
  intro x member
  simp only [writeStr, List.mem_cons, List.mem_append, List.not_mem_nil, or_false] at member
  rcases member with rfl | inside | rfl
  · decide
  · exact newline_not_mem_escape _ x inside
  · decide

theorem newline_not_mem_writeU64 (n : Nat) : ∀ x ∈ writeU64 n, x.toNat ≠ 0x0A := by
  rw [writeU64_eq_digits]
  split_ifs
  · simp
  · simp only [List.mem_map, List.mem_reverse]
    rintro x ⟨d, digit, rfl⟩
    have small := Nat.digits_lt_base (by norm_num) digit
    simp only [Utf8.toNat_ofNat]
    omega

theorem newline_not_mem_writeI64 (n : Int) : ∀ x ∈ writeI64 n, x.toNat ≠ 0x0A := by
  unfold writeI64
  split_ifs
  · simp only [List.mem_cons]
    rintro x (rfl | inside)
    · decide
    · exact newline_not_mem_writeU64 _ x inside
  · exact newline_not_mem_writeU64 _

theorem newline_not_mem_writeMember {field : String × List UInt8}
    (value : ∀ x ∈ field.2, x.toNat ≠ 0x0A) : ∀ x ∈ writeMember field, x.toNat ≠ 0x0A := by
  intro x member
  simp only [writeMember, List.mem_append, List.mem_cons] at member
  rcases member with key | rfl | inside
  · exact newline_not_mem_writeStr _ x key
  · decide
  · exact value x inside

theorem newline_not_mem_writeObject {fields : List (String × List UInt8)}
    (values : ∀ field ∈ fields, ∀ x ∈ field.2, x.toNat ≠ 0x0A) :
    ∀ x ∈ writeObject fields, x.toNat ≠ 0x0A := by
  intro x member
  cases fields with
  | nil =>
    simp only [writeObject, List.mem_cons, List.not_mem_nil, or_false] at member
    rcases member with rfl | rfl <;> decide
  | cons field fields =>
    simp only [writeObject, List.mem_cons, List.mem_append, List.mem_flatMap, List.not_mem_nil,
      or_false] at member
    rcases member with rfl | (first | ⟨f, chosen, rfl | inside⟩) | rfl
    · decide
    · exact newline_not_mem_writeMember (values field (List.mem_cons_self _ _)) x first
    · decide
    · exact newline_not_mem_writeMember (values f (List.mem_cons_of_mem _ chosen)) x inside
    · decide

def IsText (bytes : List UInt8) : Prop := ∃ cs, Utf8.encode cs = bytes

theorem IsText.append {a b : List UInt8} (left : IsText a) (right : IsText b) : IsText (a ++ b) := by
  obtain ⟨cs, rfl⟩ := left
  obtain ⟨ds, rfl⟩ := right
  exact ⟨cs ++ ds, Utf8.encode_append cs ds⟩

theorem isText_ascii {bytes : List UInt8} (ascii : ∀ b ∈ bytes, b.toNat < 0x80) : IsText bytes := by
  refine ⟨bytes.map fun b => Char.ofNat b.toNat, ?_⟩
  induction bytes with
  | nil => rfl
  | cons b bytes ih =>
    rw [List.map_cons, Utf8.encode_cons, Utf8.encodeChar_ascii (ascii b (List.mem_cons_self _ _)),
      ih fun b' member => ascii b' (List.mem_cons_of_mem _ member)]
    rfl

theorem escape_append (a b : List UInt8) : escape (a ++ b) = escape a ++ escape b :=
  List.flatMap_append a b escapeByte

theorem ascii_escapeByte {b : UInt8} (ascii : b.toNat < 0x80) : ∀ x ∈ escapeByte b, x.toNat < 0x80 := by
  intro x member
  rcases escapeByte_cases b with ⟨raw, -⟩ | ⟨-, rest, escaped, printable⟩
  · rw [raw, List.mem_singleton] at member
    exact member ▸ ascii
  · rw [escaped, List.mem_cons] at member
    rcases member with rfl | inside
    · decide
    · exact (printable x inside).2

theorem escape_high {bytes : List UInt8} (high : ∀ b ∈ bytes, 0x80 ≤ b.toNat) : escape bytes = bytes := by
  induction bytes with
  | nil => rfl
  | cons b bytes ih =>
    have big := high b (List.mem_cons_self _ _)
    have raw : escapeByte b = [b] := by
      rcases escapeByte_cases b with ⟨raw, -⟩ | ⟨escaped, -⟩
      · exact raw
      · omega
    rw [escape_cons, raw, ih fun b' member => high b' (List.mem_cons_of_mem _ member)]
    rfl

theorem isText_escape (s : List Char) : IsText (escape (Utf8.encode s)) := by
  induction s with
  | nil => exact ⟨[], rfl⟩
  | cons c s ih =>
    rw [Utf8.encode_cons, escape_append]
    refine IsText.append ?_ ih
    by_cases ascii : c.toNat < 0x80
    · have single : Utf8.encodeChar c = [UInt8.ofNat c.toNat] := by simp [Utf8.encodeChar, ascii]
      rw [single, escape_cons, escape, List.flatMap_nil, List.append_nil]
      exact isText_ascii (ascii_escapeByte (by simp only [Utf8.toNat_ofNat]; omega))
    · rw [escape_high (Utf8.high_of_mem_encodeChar (by omega))]
      exact ⟨[c], by rw [Utf8.encode_cons, List.append_right_eq_self]; rfl⟩

theorem isText_byte (c : Char) (ascii : c.toNat < 0x80) : IsText [byte c] :=
  isText_ascii (by simp only [List.mem_singleton, forall_eq, toNat_byte]; omega)

theorem isText_writeStr (s : String) : IsText (writeStr s) := by
  rw [writeStr, ← List.singleton_append]
  exact (isText_byte '"' (by decide)).append ((isText_escape _).append (isText_byte '"' (by decide)))

theorem isText_writeU64 (n : Nat) : IsText (writeU64 n) := by
  rw [writeU64_eq_digits]
  split_ifs
  · exact isText_byte '0' (by decide)
  · refine isText_ascii fun b member => ?_
    obtain ⟨d, digit, rfl⟩ := List.mem_map.mp member
    have small := Nat.digits_lt_base (by norm_num) (List.mem_reverse.mp digit)
    simp only [Utf8.toNat_ofNat]
    omega

theorem isText_writeI64 (n : Int) : IsText (writeI64 n) := by
  unfold writeI64
  split_ifs
  · rw [← List.singleton_append]
    exact (isText_byte '-' (by decide)).append (isText_writeU64 _)
  · exact isText_writeU64 _

theorem isText_writeObject {fields : List (String × List UInt8)} (values : ∀ field ∈ fields, IsText field.2) :
    IsText (writeObject fields) := by
  have member : ∀ field ∈ fields, IsText (writeMember field) := fun field chosen => by
    rw [writeMember, ← List.singleton_append, ← List.append_assoc]
    exact ((isText_writeStr _).append (isText_byte ':' (by decide))).append (values field chosen)
  cases fields with
  | nil => exact isText_ascii (by decide)
  | cons field fields =>
    rw [writeObject, ← List.singleton_append]
    refine (isText_byte '{' (by decide)).append (IsText.append (IsText.append (member field (List.mem_cons_self _ _)) ?_) (isText_byte '}' (by decide)))
    clear values
    induction fields with
    | nil => exact ⟨[], rfl⟩
    | cons f fs ih =>
      rw [List.flatMap_cons, ← List.singleton_append, List.append_assoc]
      exact (isText_byte ',' (by decide)).append ((member f (List.mem_cons_of_mem _ (List.mem_cons_self _ _))).append
        (ih fun g chosen => member g (by simp at chosen ⊢; tauto)))

end Parlance.Json
