import Parlance.Wire.Json.Read

namespace Parlance.Json

def digitByte (d : Nat) : UInt8 := UInt8.ofNat (0x30 + d)

/-- Where the loop of `parse_integer` stands after some digits: the significand while it fits a
    `u64`, then (`parse_long_integer`) the significand kept and the count of digits after it. -/
inductive IntegerScan where
  | exact (significand : Nat)
  | long (significand dropped : Nat)
deriving DecidableEq, Repr

def IntegerScan.push : IntegerScan → Nat → IntegerScan
  | .exact s, d => if s * 10 + d < 2 ^ 64 then .exact (s * 10 + d) else .long s 1
  | .long s e, _ => .long s (e + 1)

def IntegerScan.significand : IntegerScan → Nat
  | .exact s => s
  | .long s _ => s

def IntegerScan.dropped : IntegerScan → Nat
  | .exact _ => 0
  | .long _ e => e

def IntegerScan.resume (positive : Bool) : IntegerScan → List UInt8 → Read ParserNumber
  | .exact s => parseNumber positive s
  | .long s e => parseLongInteger s e

def scanInteger (n : Nat) : IntegerScan := (decimalDigits (n + 1) n).foldl IntegerScan.push (.exact 0)

def decimalFold : Nat → Int → List Nat → Nat × Int
  | s, e, [] => (s, e)
  | s, e, d :: ds => if s * 10 + d < 2 ^ 64 then decimalFold (s * 10 + d) (e - 1) ds else (s, e)

def exponentFold : Nat → List Nat → Option Nat
  | exp, [] => some exp
  | exp, d :: ds => if exp * 10 + d < 2 ^ 31 then exponentFold (exp * 10 + d) ds else none

def StopsDigits (rest : List UInt8) : Prop := ∀ b ∈ rest.head?, isDigit b = false

section

variable {d : Nat} (small : d < 10)
include small

theorem toNat_digitByte : (digitByte d).toNat = 0x30 + d := by
  simp only [digitByte, Utf8.toNat_ofNat]; omega

theorem isDigit_digitByte : isDigit (digitByte d) = true := by
  simp [isDigit, toNat_digitByte small]; omega

theorem digitValue_digitByte : digitValue (digitByte d) = d := by
  simp [digitValue, toNat_digitByte small]

end

theorem isChar_of_isDigit {b : UInt8} (digit : isDigit b = true) {c : Char}
    (outside : c.toNat < 0x30 ∨ 0x39 < c.toNat) : isChar b c = false := by
  simp only [isDigit, decide_eq_true_eq] at digit
  simp only [isChar, decide_eq_false_iff_not]
  omega

theorem isWhitespace_of_isDigit {b : UInt8} (digit : isDigit b = true) : isWhitespace b = false := by
  simp [isWhitespace, isChar_of_isDigit digit]

theorem EndsNumber.stops {rest : List UInt8} (stop : EndsNumber rest) : StopsDigits rest :=
  fun b member => (stop b member).1

theorem foldl_push_long (s e : Nat) (ds : List Nat) : ds.foldl IntegerScan.push (.long s e) = .long s (e + ds.length) := by
  induction ds generalizing e with
  | nil => rfl
  | cons d ds ih => rw [List.foldl_cons, IntegerScan.push, ih]; simp only [List.length_cons]; congr 1; omega

theorem parseLongInteger_digits (s e : Nat) (ds : List Nat) (small : ∀ d ∈ ds, d < 10) (rest : List UInt8) :
    parseLongInteger s e (ds.map digitByte ++ rest) = parseLongInteger s (e + ds.length) rest := by
  induction ds generalizing e with
  | nil => rfl
  | cons d ds ih =>
    rw [List.forall_mem_cons] at small
    rw [List.map_cons, List.cons_append, parseLongInteger, if_pos (isDigit_digitByte small.1), ih (e + 1) small.2]
    simp only [List.length_cons]; congr 1; omega

theorem integerDigits_digits (positive : Bool) (s : Nat) (ds : List Nat) (small : ∀ d ∈ ds, d < 10)
    {rest : List UInt8} (stop : StopsDigits rest) :
    integerDigits positive s (ds.map digitByte ++ rest) = (ds.foldl IntegerScan.push (.exact s)).resume positive rest := by
  induction ds generalizing s with
  | nil =>
    cases rest with
    | nil => rfl
    | cons b rest => simp only [List.map_nil, List.nil_append, integerDigits, stop b rfl]; rfl
  | cons d ds ih =>
    rw [List.forall_mem_cons] at small
    rw [List.map_cons, List.cons_append, integerDigits, if_pos (isDigit_digitByte small.1),
      digitValue_digitByte small.1, List.foldl_cons, IntegerScan.push]
    split_ifs
    · exact ih _ small.2
    · rw [← List.cons_append, ← List.map_cons, parseLongInteger_digits s 0 _ (List.forall_mem_cons.mpr small), foldl_push_long]
      simp only [IntegerScan.resume, List.length_cons]
      rw [show 0 + (ds.length + 1) = 1 + ds.length by omega]

theorem decimalDigits_shape (n : Nat) : ∃ lead digits, decimalDigits (n + 1) n = lead :: digits ∧
    (lead = 0 → n = 0 ∧ digits = []) ∧ ∀ d ∈ lead :: digits, d < 10 := by
  by_cases zero : n = 0
  · exact ⟨0, [], by subst zero; rfl, fun _ => ⟨zero, rfl⟩, by simp⟩
  have small : n < 10 ^ (n + 1) :=
    (Nat.lt_pow_self (by norm_num) n).trans_le (Nat.pow_le_pow_right (by norm_num) (Nat.le_succ n))
  rw [decimalDigits_eq (Nat.pos_of_ne_zero zero) small]
  obtain ⟨lead, digits, split⟩ : ∃ lead digits, (Nat.digits 10 n).reverse = lead :: digits := by
    cases h : (Nat.digits 10 n).reverse with
    | nil => exact absurd (List.reverse_eq_nil_iff.mp h) (Nat.digits_ne_nil_iff_ne_zero.mpr zero)
    | cons lead digits => exact ⟨lead, digits, rfl⟩
  have last : (Nat.digits 10 n).getLast? = some lead := by rw [← List.head?_reverse, split]; rfl
  rw [List.getLast?_eq_getLast _ (Nat.digits_ne_nil_iff_ne_zero.mpr zero)] at last
  refine ⟨lead, digits, split, fun leadZero => absurd ((Option.some.inj last).trans leadZero) (Nat.getLast_digit_ne_zero 10 zero),
    fun d member => Nat.digits_lt_base (by norm_num) (List.mem_reverse.mp (split ▸ member))⟩

theorem scanInteger_eq (n : Nat) : ∃ lead digits, writeU64 n = (lead :: digits).map digitByte ∧
    lead < 10 ∧ (∀ d ∈ digits, d < 10) ∧ (lead = 0 → n = 0 ∧ digits = []) ∧
    scanInteger n = digits.foldl IntegerScan.push (.exact lead) := by
  obtain ⟨lead, digits, shape, zeroLead, small⟩ := decimalDigits_shape n
  rw [List.forall_mem_cons] at small
  refine ⟨lead, digits, by rw [writeU64, shape]; rfl, small.1, small.2, zeroLead, ?_⟩
  rw [scanInteger, shape, List.foldl_cons, IntegerScan.push, if_pos (by omega), Nat.zero_mul, Nat.zero_add]

theorem writeU64_ne_nil (n : Nat) : writeU64 n ≠ [] := by
  obtain ⟨lead, digits, shape, -⟩ := scanInteger_eq n
  simp [shape]

theorem isDigit_of_mem_writeU64 (n : Nat) : ∀ b ∈ writeU64 n, isDigit b = true := by
  obtain ⟨lead, digits, shape, leadSmall, small, -⟩ := scanInteger_eq n
  rw [shape, List.map_cons]
  rintro b (_ | ⟨_, member⟩)
  · exact isDigit_digitByte leadSmall
  · obtain ⟨d, digit, rfl⟩ := List.mem_map.mp member
    exact isDigit_digitByte (small d digit)

theorem parseInteger_writeU64_scan (positive : Bool) (n : Nat) {rest : List UInt8} (stop : StopsDigits rest) :
    parseInteger positive (writeU64 n ++ rest) = (scanInteger n).resume positive rest := by
  obtain ⟨lead, digits, shape, leadSmall, small, zeroLead, scan⟩ := scanInteger_eq n
  rw [shape, scan, List.map_cons, List.cons_append, parseInteger]
  by_cases zero : lead = 0
  · obtain ⟨rfl, rfl⟩ := zeroLead zero
    subst zero
    have noDigit : rest.head?.any isDigit = false := by
      cases rest with
      | nil => rfl
      | cons b rest => simp [stop b rfl]
    simp only [show isChar (digitByte 0) '0' = true by decide, if_true, List.map_nil, List.nil_append, noDigit,
      Bool.false_eq_true, if_false]
    rfl
  · rw [if_neg (by simp only [isChar, toNat_digitByte leadSmall]; simp; omega), if_pos (isDigit_digitByte leadSmall),
      digitValue_digitByte leadSmall, integerDigits_digits positive lead digits small stop]

theorem scanInteger_small {n : Nat} (small : n < 2 ^ 64) : scanInteger n = .exact n := by
  suffices ∀ fuel n, n < 10 ^ fuel → n < 2 ^ 64 → (decimalDigits fuel n).foldl IntegerScan.push (.exact 0) = .exact n from
    this (n + 1) n ((Nat.lt_pow_self (by norm_num) n).trans_le (Nat.pow_le_pow_right (by norm_num) (Nat.le_succ n))) small
  intro fuel
  induction fuel with
  | zero =>
    intro n enough _
    obtain rfl : n = 0 := by simpa using enough
    rfl
  | succ fuel ih =>
    intro n enough small
    rw [decimalDigits]
    split_ifs with single
    · rw [List.foldl_cons, List.foldl_nil, IntegerScan.push, if_pos (by omega)]; simp
    · rw [List.foldl_append, ih (n / 10) (Nat.div_lt_of_lt_mul (by rw [← pow_succ']; exact enough)) (by omega),
        List.foldl_cons, List.foldl_nil, IntegerScan.push, Nat.div_add_mod' n 10, if_pos small]

theorem parseNumber_end (positive : Bool) (s : Nat) {rest : List UInt8} (stop : EndsNumber rest) :
    parseNumber positive s rest = .ok (classify positive (UInt64.ofNat s), rest) := by
  cases rest with
  | nil => rfl
  | cons b rest =>
    obtain ⟨-, point, e, bigE⟩ := stop b rfl
    simp [parseNumber, point, e, bigE]

theorem parseInteger_writeU64 (positive : Bool) {n : Nat} (small : n < 2 ^ 64) {rest : List UInt8} (stop : EndsNumber rest) :
    parseInteger positive (writeU64 n ++ rest) = .ok (classify positive (UInt64.ofNat n), rest) := by
  rw [parseInteger_writeU64_scan positive n stop.stops, scanInteger_small small]
  exact parseNumber_end positive n stop

theorem deserializeI64_writeI64 (n : I64) {rest : List UInt8} (stop : EndsNumber rest) :
    deserializeI64 (writeI64 n.val ++ rest) = .ok (n, rest) := by
  have bounded := n.bounded
  unfold writeI64
  split_ifs with negative
  · have magnitude : (UInt64.ofNat n.val.natAbs).toNat = n.val.natAbs := UInt64.toNat_ofNat_of_lt (by
      simp only [UInt64.size]; omega)
    have classified : classify false (UInt64.ofNat n.val.natAbs) = .i64 n := by
      rw [classify, if_neg Bool.false_ne_true, dif_pos (by omega)]
      exact congrArg ParserNumber.i64 (I64.ext (by simp only [magnitude]; omega))
    rw [List.cons_append, deserializeI64, skipWhitespace_cons _ (by decide)]
    simp only [show isChar (byte '-') '-' = true by decide, if_true,
      parseInteger_writeU64 false (show n.val.natAbs < 2 ^ 64 by omega) stop, classified]
    rfl
  · obtain ⟨b, more, split⟩ := List.exists_cons_of_ne_nil (writeU64_ne_nil n.val.toNat)
    have digit := isDigit_of_mem_writeU64 n.val.toNat b (split ▸ List.mem_cons_self _ _)
    have value := parseInteger_writeU64 true (show n.val.toNat < 2 ^ 64 by omega) stop
    rw [split] at value ⊢
    rw [List.cons_append, deserializeI64, skipWhitespace_cons _ (isWhitespace_of_isDigit digit)]
    simp only [isChar_of_isDigit digit (c := '-') (by decide), digit, ← List.cons_append, value,
      Bool.false_eq_true, if_false, if_true, classify, visitI64,
      UInt64.toNat_ofNat_of_lt (show n.val.toNat < UInt64.size by simp only [UInt64.size]; omega),
      dif_pos (show n.val.toNat < 2 ^ 63 by omega)]
    exact congrArg (fun v : I64 => (Except.ok (v, rest) : Read I64)) (I64.ext (by simp only; omega))

inductive ExponentSign where
  | absent
  | plus
  | minus
deriving DecidableEq, Repr

def ExponentSign.write : ExponentSign → List UInt8
  | .absent => []
  | .plus => [byte '+']
  | .minus => [byte '-']

structure Exponent where
  upper : Bool
  sign : ExponentSign
  first : Fin 10
  more : List (Fin 10)
deriving DecidableEq, Repr

def Exponent.digits (x : Exponent) : List Nat := (x.first :: x.more).map Fin.val

def Exponent.positive (x : Exponent) : Bool := x.sign != .minus

def Exponent.write (x : Exponent) : List UInt8 :=
  (if x.upper then byte 'E' else byte 'e') :: (x.sign.write ++ x.digits.map digitByte)

def Exponent.writeOption : Option Exponent → List UInt8
  | some x => x.write
  | none => []

def Exponent.apply (x : Exponent) (significand : Nat) (exponent : Int) : Except ErrorCode ParserNumber :=
  match exponentFold 0 x.digits with
  | some exp => f64FromParts significand (saturateI32 (if x.positive then exponent + exp else exponent - exp))
  | none => if significand ≠ 0 ∧ x.positive then .error .numberOutOfRange else .ok .f64

/-- A JSON number as any writer may write it (RFC 8259): a minus or none, an integer with no
    leading zero, an optional fraction of one digit or more, an optional exponent. -/
structure JsonNumber where
  negative : Bool
  integer : Nat
  fraction : List (Fin 10)
  exponent : Option Exponent
deriving DecidableEq, Repr

def JsonNumber.ofNat (n : Nat) : JsonNumber := ⟨false, n, [], none⟩

def JsonNumber.writeUnsigned (x : JsonNumber) : List UInt8 :=
  writeU64 x.integer ++
    ((if x.fraction.isEmpty then [] else byte '.' :: x.fraction.map fun d => digitByte d.val) ++
      Exponent.writeOption x.exponent)

def JsonNumber.write (x : JsonNumber) : List UInt8 :=
  if x.negative then byte '-' :: x.writeUnsigned else x.writeUnsigned

def JsonNumber.float (x : JsonNumber) (scan : IntegerScan) : Except ErrorCode ParserNumber :=
  let parts := decimalFold scan.significand scan.dropped (x.fraction.map Fin.val)
  match x.exponent with
  | none => f64FromParts parts.1 parts.2
  | some exponent => exponent.apply parts.1 parts.2

def JsonNumber.read (x : JsonNumber) : Except ErrorCode ParserNumber :=
  match scanInteger x.integer with
  | .exact s =>
    if x.fraction.isEmpty ∧ x.exponent.isNone then .ok (classify (!x.negative) (UInt64.ofNat s))
    else x.float (.exact s)
  | .long s e => x.float (.long s e)

section

variable (s : Nat) (e : Int) {rest : List UInt8}

end

end Parlance.Json
