import Parlance.Core.Str

namespace Parlance.Utf8

def encodeChar (c : Char) : List UInt8 :=
  let v := c.toNat
  if v < 0x80 then [UInt8.ofNat v]
  else if v < 0x800 then [UInt8.ofNat (0xC0 + v / 0x40 % 0x20), UInt8.ofNat (0x80 + v % 0x40)]
  else if v < 0x10000 then
    [UInt8.ofNat (0xE0 + v / 0x1000 % 0x10), UInt8.ofNat (0x80 + v / 0x40 % 0x40),
      UInt8.ofNat (0x80 + v % 0x40)]
  else
    [UInt8.ofNat (0xF0 + v / 0x40000 % 0x08), UInt8.ofNat (0x80 + v / 0x1000 % 0x40),
      UInt8.ofNat (0x80 + v / 0x40 % 0x40), UInt8.ofNat (0x80 + v % 0x40)]

def encode (s : List Char) : List UInt8 := s.flatMap encodeChar

def isCont (b : UInt8) : Bool := 0x80 ≤ b.toNat ∧ b.toNat ≤ 0xBF

def secondOk (lead b : UInt8) : Bool :=
  if lead.toNat = 0xE0 then 0xA0 ≤ b.toNat ∧ b.toNat ≤ 0xBF
  else if lead.toNat = 0xED then 0x80 ≤ b.toNat ∧ b.toNat ≤ 0x9F
  else if lead.toNat = 0xF0 then 0x90 ≤ b.toNat ∧ b.toNat ≤ 0xBF
  else if lead.toNat = 0xF4 then 0x80 ≤ b.toNat ∧ b.toNat ≤ 0x8F
  else isCont b

def utf8CharWidth (b : UInt8) : Nat :=
  if b.toNat < 0x80 then 1
  else if 0xC2 ≤ b.toNat ∧ b.toNat ≤ 0xDF then 2
  else if 0xE0 ≤ b.toNat ∧ b.toNat ≤ 0xEF then 3
  else if 0xF0 ≤ b.toNat ∧ b.toNat ≤ 0xF4 then 4
  else 0

/-- `str::from_utf8` (`run_utf8_validation`), then the characters: `none` on any byte sequence
    that is not UTF-8. -/
def decode : List UInt8 → Option (List Char)
  | [] => some []
  | b0 :: rest =>
    match utf8CharWidth b0, rest with
    | 1, rest => (decode rest).map (Char.ofNat b0.toNat :: ·)
    | 2, b1 :: rest =>
      if isCont b1 then (decode rest).map (Char.ofNat (b0.toNat % 0x20 * 0x40 + b1.toNat % 0x40) :: ·)
      else none
    | 3, b1 :: b2 :: rest =>
      if secondOk b0 b1 ∧ isCont b2 then
        (decode rest).map (Char.ofNat
          (b0.toNat % 0x10 * 0x1000 + b1.toNat % 0x40 * 0x40 + b2.toNat % 0x40) :: ·)
      else none
    | 4, b1 :: b2 :: b3 :: rest =>
      if secondOk b0 b1 ∧ isCont b2 ∧ isCont b3 then
        (decode rest).map (Char.ofNat (b0.toNat % 0x08 * 0x40000 + b1.toNat % 0x40 * 0x1000 +
          b2.toNat % 0x40 * 0x40 + b3.toNat % 0x40) :: ·)
      else none
    | _, _ => none

@[simp] theorem toNat_ofNat (n : Nat) : (UInt8.ofNat n).toNat = n % 256 := BitVec.toNat_ofNat n 8

theorem char_valid (c : Char) : c.toNat < 0xD800 ∨ (0xDFFF < c.toNat ∧ c.toNat < 0x110000) :=
  c.valid

theorem toNat_ofNat_char {n : Nat} (valid : n < 0xD800 ∨ (0xDFFF < n ∧ n < 0x110000)) :
    (Char.ofNat n).toNat = n := by
  have isValid : n.isValidChar := by unfold Nat.isValidChar; omega
  simp [Char.ofNat, isValid, Char.ofNatAux, Char.toNat, UInt32.toNat, BitVec.toNat_ofNatLt]

theorem ofNat_eq {c : Char} {n : Nat} (same : n = c.toNat) : Char.ofNat n = c :=
  same ▸ Char.ofNat_toNat c

theorem decode_one {b0 : UInt8} (rest : List UInt8) (width : utf8CharWidth b0 = 1) :
    decode (b0 :: rest) = (decode rest).map (Char.ofNat b0.toNat :: ·) := by
  simp [decode, width]

theorem decode_two {b0 b1 : UInt8} (rest : List UInt8) (width : utf8CharWidth b0 = 2)
    (cont : isCont b1) :
    decode (b0 :: b1 :: rest) =
      (decode rest).map (Char.ofNat (b0.toNat % 0x20 * 0x40 + b1.toNat % 0x40) :: ·) := by
  simp [decode, width, cont]

theorem decode_three {b0 b1 b2 : UInt8} (rest : List UInt8) (width : utf8CharWidth b0 = 3)
    (second : secondOk b0 b1) (cont : isCont b2) :
    decode (b0 :: b1 :: b2 :: rest) = (decode rest).map (Char.ofNat
      (b0.toNat % 0x10 * 0x1000 + b1.toNat % 0x40 * 0x40 + b2.toNat % 0x40) :: ·) := by
  simp [decode, width, second, cont]

theorem decode_four {b0 b1 b2 b3 : UInt8} (rest : List UInt8) (width : utf8CharWidth b0 = 4)
    (second : secondOk b0 b1) (cont : isCont b2) (cont' : isCont b3) :
    decode (b0 :: b1 :: b2 :: b3 :: rest) = (decode rest).map (Char.ofNat
      (b0.toNat % 0x08 * 0x40000 + b1.toNat % 0x40 * 0x1000 + b2.toNat % 0x40 * 0x40 +
        b3.toNat % 0x40) :: ·) := by
  simp [decode, width, second, cont, cont']

theorem map_cons_eq {a b : Char} (same : a = b) (o : Option (List Char)) :
    o.map (a :: ·) = o.map (b :: ·) := by
  rw [same]

theorem toNat_cont {x : Nat} (small : x < 0x40) : (UInt8.ofNat (0x80 + x)).toNat = 0x80 + x := by
  rw [toNat_ofNat]
  omega

theorem isCont_cont {x : Nat} (small : x < 0x40) : isCont (UInt8.ofNat (0x80 + x)) = true := by
  simp only [isCont, toNat_cont small, decide_eq_true_eq]
  omega

theorem utf8CharWidth_two {b : UInt8} (low : 0xC2 ≤ b.toNat) (high : b.toNat ≤ 0xDF) : utf8CharWidth b = 2 := by
  rw [utf8CharWidth, if_neg (by omega), if_pos ⟨low, high⟩]

theorem utf8CharWidth_three {b : UInt8} (low : 0xE0 ≤ b.toNat) (high : b.toNat ≤ 0xEF) :
    utf8CharWidth b = 3 := by
  rw [utf8CharWidth, if_neg (by omega), if_neg (by omega), if_pos ⟨low, high⟩]

theorem utf8CharWidth_four {b : UInt8} (low : 0xF0 ≤ b.toNat) (high : b.toNat ≤ 0xF4) :
    utf8CharWidth b = 4 := by
  rw [utf8CharWidth, if_neg (by omega), if_neg (by omega), if_neg (by omega), if_pos ⟨low, high⟩]

theorem secondOk_of {lead b : UInt8} (cont : 0x80 ≤ b.toNat ∧ b.toNat ≤ 0xBF)
    (e0 : lead.toNat = 0xE0 → 0xA0 ≤ b.toNat) (ed : lead.toNat = 0xED → b.toNat ≤ 0x9F)
    (f0 : lead.toNat = 0xF0 → 0x90 ≤ b.toNat) (f4 : lead.toNat = 0xF4 → b.toNat ≤ 0x8F) :
    secondOk lead b = true := by
  unfold secondOk
  by_cases x0 : lead.toNat = 0xE0
  · rw [if_pos x0]; exact decide_eq_true ⟨e0 x0, cont.2⟩
  rw [if_neg x0]
  by_cases xd : lead.toNat = 0xED
  · rw [if_pos xd]; exact decide_eq_true ⟨cont.1, ed xd⟩
  rw [if_neg xd]
  by_cases y0 : lead.toNat = 0xF0
  · rw [if_pos y0]; exact decide_eq_true ⟨f0 y0, cont.2⟩
  rw [if_neg y0]
  by_cases y4 : lead.toNat = 0xF4
  · rw [if_pos y4]; exact decide_eq_true ⟨cont.1, f4 y4⟩
  rw [if_neg y4]
  exact decide_eq_true cont

theorem decode_encodeChar (c : Char) (rest : List UInt8) :
    decode (encodeChar c ++ rest) = (decode rest).map (c :: ·) := by
  have valid := char_valid c
  have low : c.toNat % 0x40 < 0x40 := Nat.mod_lt _ (by decide)
  have mid : c.toNat / 0x40 % 0x40 < 0x40 := Nat.mod_lt _ (by decide)
  have high : c.toNat / 0x1000 % 0x40 < 0x40 := Nat.mod_lt _ (by decide)
  simp only [encodeChar]
  split_ifs with one two three
  · rw [List.singleton_append, decode_one _ (if_pos (by rw [toNat_ofNat]; omega))]
    exact map_cons_eq (ofNat_eq (by rw [toNat_ofNat]; omega)) _
  · have lead : (UInt8.ofNat (0xC0 + c.toNat / 0x40 % 0x20)).toNat = 0xC0 + c.toNat / 0x40 % 0x20 := by
      rw [toNat_ofNat]; omega
    rw [List.cons_append, List.cons_append, List.nil_append,
      decode_two _ (utf8CharWidth_two (by omega) (by omega)) (isCont_cont low)]
    exact map_cons_eq (ofNat_eq (by rw [lead, toNat_cont low]; omega)) _
  · have lead : (UInt8.ofNat (0xE0 + c.toNat / 0x1000 % 0x10)).toNat = 0xE0 + c.toNat / 0x1000 % 0x10 := by
      rw [toNat_ofNat]; omega
    have second := toNat_cont mid
    rw [List.cons_append, List.cons_append, List.cons_append, List.nil_append,
      decode_three _ (utf8CharWidth_three (by omega) (by omega))
        (secondOk_of (by omega) (by omega) (by omega) (by omega) (by omega)) (isCont_cont low)]
    exact map_cons_eq (ofNat_eq (by rw [lead, second, toNat_cont low]; omega)) _
  · have lead : (UInt8.ofNat (0xF0 + c.toNat / 0x40000 % 0x08)).toNat = 0xF0 + c.toNat / 0x40000 % 0x08 := by
      rw [toNat_ofNat]; omega
    have second := toNat_cont high
    rw [List.cons_append, List.cons_append, List.cons_append, List.cons_append, List.nil_append,
      decode_four _ (utf8CharWidth_four (by omega) (by omega))
        (secondOk_of (by omega) (by omega) (by omega) (by omega) (by omega)) (isCont_cont mid) (isCont_cont low)]
    exact map_cons_eq (ofNat_eq (by rw [lead, second, toNat_cont mid, toNat_cont low]; omega)) _

theorem encode_cons (c : Char) (s : List Char) : encode (c :: s) = encodeChar c ++ encode s :=
  List.flatMap_cons c s encodeChar

theorem decode_encode (s : List Char) : decode (encode s) = some s := by
  induction s with
  | nil => rfl
  | cons c s ih => rw [encode_cons, decode_encodeChar, ih]; rfl

theorem eq_newline_of_mem_encodeChar {c : Char} {b : UInt8} (member : b ∈ encodeChar c)
    (ten : b.toNat = 10) : c = '\n' := by
  simp only [encodeChar] at member
  split_ifs at member <;> simp only [List.mem_cons, List.mem_singleton, List.not_mem_nil,
    or_false] at member
  · subst member
    have code : c.toNat = 10 := by simp only [toNat_ofNat] at ten; omega
    rw [← Char.ofNat_toNat c, code]
  all_goals rcases member with rfl | rfl | rfl | rfl <;> simp at ten <;> omega

theorem newline_not_mem_encode {s : List Char} (noNewline : '\n' ∉ s) :
    ∀ b ∈ encode s, b.toNat ≠ 10 := by
  intro b member ten
  obtain ⟨c, inside, found⟩ := List.mem_flatMap.mp member
  exact noNewline (eq_newline_of_mem_encodeChar found ten ▸ inside)

theorem encode_append (a b : List Char) : encode (a ++ b) = encode a ++ encode b :=
  List.flatMap_append a b encodeChar

theorem ofNat_eq_of_toNat {b : UInt8} {n : Nat} (same : b.toNat = n) : UInt8.ofNat n = b :=
  UInt8.toNat.inj (by rw [toNat_ofNat, ← same, Nat.mod_eq_of_lt (UInt8.toNat_lt_size b)])

theorem encodeChar_ascii {b : UInt8} (ascii : b.toNat < 0x80) : encodeChar (Char.ofNat b.toNat) = [b] := by
  have same : (Char.ofNat b.toNat).toNat = b.toNat := toNat_ofNat_char (Or.inl (by omega))
  simp only [encodeChar, same, ascii, if_true, ofNat_eq_of_toNat rfl]

theorem high_of_mem_encodeChar {c : Char} (wide : 0x80 ≤ c.toNat) : ∀ b ∈ encodeChar c, 0x80 ≤ b.toNat := by
  have valid := char_valid c
  simp only [encodeChar]
  split_ifs <;> simp only [List.forall_mem_cons, List.not_mem_nil, false_implies, implies_true,
    and_true, toNat_ofNat] <;> omega

theorem utf8CharWidth_cases (b : UInt8) :
    utf8CharWidth b = 1 ∧ b.toNat < 0x80 ∨ utf8CharWidth b = 2 ∧ 0xC2 ≤ b.toNat ∧ b.toNat ≤ 0xDF ∨
      utf8CharWidth b = 3 ∧ 0xE0 ≤ b.toNat ∧ b.toNat ≤ 0xEF ∨
      utf8CharWidth b = 4 ∧ 0xF0 ≤ b.toNat ∧ b.toNat ≤ 0xF4 ∨ utf8CharWidth b = 0 := by
  unfold utf8CharWidth
  split_ifs <;> omega

theorem range_of_isCont {b : UInt8} (cont : isCont b = true) : 0x80 ≤ b.toNat ∧ b.toNat ≤ 0xBF := by
  simpa [isCont] using cont

theorem range_of_secondOk {lead b : UInt8} (second : secondOk lead b = true) :
    0x80 ≤ b.toNat ∧ b.toNat ≤ 0xBF ∧ (lead.toNat = 0xE0 → 0xA0 ≤ b.toNat) ∧
      (lead.toNat = 0xED → b.toNat ≤ 0x9F) ∧ (lead.toNat = 0xF0 → 0x90 ≤ b.toNat) ∧
      (lead.toNat = 0xF4 → b.toNat ≤ 0x8F) := by
  unfold secondOk isCont at second
  split_ifs at second <;> simp only [decide_eq_true_eq] at second <;> omega

theorem encodeChar_one {b0 : UInt8} (width : utf8CharWidth b0 = 1) :
    encodeChar (Char.ofNat b0.toNat) = [b0] :=
  encodeChar_ascii (by have := utf8CharWidth_cases b0; omega)

theorem encodeChar_two {b0 b1 : UInt8} (width : utf8CharWidth b0 = 2) (cont : isCont b1 = true) :
    encodeChar (Char.ofNat (b0.toNat % 0x20 * 0x40 + b1.toNat % 0x40)) = [b0, b1] := by
  have lead : 0xC2 ≤ b0.toNat ∧ b0.toNat ≤ 0xDF := by have := utf8CharWidth_cases b0; omega
  have last := range_of_isCont cont
  have code := toNat_ofNat_char (n := b0.toNat % 0x20 * 0x40 + b1.toNat % 0x40) (by omega)
  simp only [encodeChar, code]
  rw [if_neg (by omega), if_pos (by omega), ofNat_eq_of_toNat (b := b0) (by omega),
    ofNat_eq_of_toNat (b := b1) (by omega)]

theorem encodeChar_three {b0 b1 b2 : UInt8} (width : utf8CharWidth b0 = 3) (second : secondOk b0 b1 = true)
    (cont : isCont b2 = true) :
    encodeChar (Char.ofNat (b0.toNat % 0x10 * 0x1000 + b1.toNat % 0x40 * 0x40 + b2.toNat % 0x40)) =
      [b0, b1, b2] := by
  have lead : 0xE0 ≤ b0.toNat ∧ b0.toNat ≤ 0xEF := by have := utf8CharWidth_cases b0; omega
  obtain ⟨low, high, e0, ed, -, -⟩ := range_of_secondOk second
  have last := range_of_isCont cont
  have valid : b0.toNat % 0x10 * 0x1000 + b1.toNat % 0x40 * 0x40 + b2.toNat % 0x40 < 0xD800 ∨
      0xDFFF < b0.toNat % 0x10 * 0x1000 + b1.toNat % 0x40 * 0x40 + b2.toNat % 0x40 ∧
        b0.toNat % 0x10 * 0x1000 + b1.toNat % 0x40 * 0x40 + b2.toNat % 0x40 < 0x10000 := by omega
  have wide : 0x800 ≤ b0.toNat % 0x10 * 0x1000 + b1.toNat % 0x40 * 0x40 + b2.toNat % 0x40 := by omega
  clear e0 ed
  simp only [encodeChar, toNat_ofNat_char (valid.imp_right fun v => ⟨v.1, by omega⟩)]
  rw [if_neg (by omega), if_neg (by omega), if_pos (by omega), ofNat_eq_of_toNat (b := b0) (by omega),
    ofNat_eq_of_toNat (b := b1) (by omega), ofNat_eq_of_toNat (b := b2) (by omega)]

theorem encodeChar_four {b0 b1 b2 b3 : UInt8} (width : utf8CharWidth b0 = 4) (second : secondOk b0 b1 = true)
    (cont : isCont b2 = true) (cont' : isCont b3 = true) :
    encodeChar (Char.ofNat (b0.toNat % 0x08 * 0x40000 + b1.toNat % 0x40 * 0x1000 + b2.toNat % 0x40 * 0x40 +
      b3.toNat % 0x40)) = [b0, b1, b2, b3] := by
  have lead : 0xF0 ≤ b0.toNat ∧ b0.toNat ≤ 0xF4 := by have := utf8CharWidth_cases b0; omega
  obtain ⟨low, high, -, -, f0, f4⟩ := range_of_secondOk second
  have third := range_of_isCont cont
  have last := range_of_isCont cont'
  have range : 0x10000 ≤ b0.toNat % 0x08 * 0x40000 + b1.toNat % 0x40 * 0x1000 + b2.toNat % 0x40 * 0x40 +
      b3.toNat % 0x40 ∧ b0.toNat % 0x08 * 0x40000 + b1.toNat % 0x40 * 0x1000 + b2.toNat % 0x40 * 0x40 +
      b3.toNat % 0x40 < 0x110000 := by omega
  clear f0 f4
  simp only [encodeChar, toNat_ofNat_char (Or.inr ⟨by omega, range.2⟩)]
  rw [if_neg (by omega), if_neg (by omega), if_neg (by omega), ofNat_eq_of_toNat (b := b0) (by omega),
    ofNat_eq_of_toNat (b := b1) (by omega), ofNat_eq_of_toNat (b := b2) (by omega),
    ofNat_eq_of_toNat (b := b3) (by omega)]

theorem encode_of_decode {bytes : List UInt8} : ∀ {cs : List Char}, decode bytes = some cs → encode cs = bytes := by
  induction bytes using decode.induct with
  | case1 => intro cs decoded; cases decoded; rfl
  | case2 b0 rest width ih =>
    intro cs decoded
    rw [decode_one rest width] at decoded
    obtain ⟨cs', decoded', rfl⟩ := Option.map_eq_some'.mp decoded
    rw [encode_cons, encodeChar_one width, ih decoded']
    rfl
  | case3 b0 b1 rest width cont ih =>
    intro cs decoded
    rw [decode_two rest width cont] at decoded
    obtain ⟨cs', decoded', rfl⟩ := Option.map_eq_some'.mp decoded
    rw [encode_cons, encodeChar_two width cont, ih decoded']
    rfl
  | case4 b0 b1 rest width bad => intro cs decoded; simp [decode, width, bad] at decoded
  | case5 b0 b1 b2 rest width ok ih =>
    intro cs decoded
    rw [decode_three rest width ok.1 ok.2] at decoded
    obtain ⟨cs', decoded', rfl⟩ := Option.map_eq_some'.mp decoded
    rw [encode_cons, encodeChar_three width ok.1 ok.2, ih decoded']
    rfl
  | case6 b0 b1 b2 rest width bad => intro cs decoded; simp [decode, width, bad] at decoded
  | case7 b0 b1 b2 b3 rest width ok ih =>
    intro cs decoded
    rw [decode_four rest width ok.1 ok.2.1 ok.2.2] at decoded
    obtain ⟨cs', decoded', rfl⟩ := Option.map_eq_some'.mp decoded
    rw [encode_cons, encodeChar_four width ok.1 ok.2.1 ok.2.2, ih decoded']
    rfl
  | case8 b0 b1 b2 b3 rest width bad => intro cs decoded; simp [decode, width, bad] at decoded
  | case9 b0 rest one two three four =>
    intro cs decoded
    unfold decode at decoded
    split at decoded
    · next width => exact (one width).elim
    · next width => exact (two _ _ width rfl).elim
    · next width => exact (three _ _ _ width rfl).elim
    · next width => exact (four _ _ _ _ width rfl).elim
    · cases decoded

/-- `str::from_utf8` is the inverse of `as_bytes`: it accepts exactly the encodings of character
    sequences, and reads each back as the characters it encodes. -/
theorem decode_eq_some_iff {bytes : List UInt8} {cs : List Char} : decode bytes = some cs ↔ encode cs = bytes :=
  ⟨encode_of_decode, fun same => same ▸ decode_encode cs⟩

end Parlance.Utf8
