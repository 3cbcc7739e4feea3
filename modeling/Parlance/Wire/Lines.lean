import Parlance.Wire.Json.Write

namespace Parlance.Lines

open Json

def readUntilNewline : List UInt8 → List UInt8 × List UInt8
  | [] => ([], [])
  | b :: rest =>
    if b.toNat = 0x0A then ([b], rest)
    else ((readUntilNewline rest).1.cons b, (readUntilNewline rest).2)

def stripNewline (cs : List Char) : List Char :=
  if cs.getLast? = some '\n' then
    if cs.dropLast.getLast? = some '\r' then cs.dropLast.dropLast else cs.dropLast
  else cs

inductive ReadError where
  | invalidData
deriving DecidableEq, Repr

/-- `Lines::next_line` on the bytes still to arrive before the stream closes: `none` at the end
    of the stream, `InvalidData` for a line that is not UTF-8. -/
def nextLine (input : List UInt8) : Except ReadError (Option (String × List UInt8)) :=
  if (readUntilNewline input).1 = [] then .ok none
  else match Utf8.decode (readUntilNewline input).1 with
    | some cs => .ok (some (⟨stripNewline cs⟩, (readUntilNewline input).2))
    | none => .error .invalidData

theorem length_readUntilNewline (input : List UInt8) :
    (readUntilNewline input).1.length + (readUntilNewline input).2.length = input.length := by
  induction input with
  | nil => rfl
  | cons b rest ih =>
    unfold readUntilNewline
    split_ifs <;> simp only [List.length_cons, List.length_nil] <;> omega

theorem nextLine_shorter {input rest : List UInt8} {line : String}
    (read : nextLine input = .ok (some (line, rest))) : rest.length < input.length := by
  have total := length_readUntilNewline input
  unfold nextLine at read
  split_ifs at read with empty
  · cases read
  · have nonempty := List.length_pos_of_ne_nil empty
    split at read
    · cases read
      omega
    · cases read

/-- The loop both line readers run, `while let Ok(Some(line)) = lines.next_line().await`, on the
    bytes still to arrive: `body state line` is what a round emits and the state after it, `none`
    where the body breaks. The loop also ends at the end of the stream and at a read error. -/
def forEachLine {σ α : Type} (body : σ → String → Option (List α × σ)) (state : σ)
    (input : List UInt8) : List α :=
  match _read : nextLine input with
  | .ok (some (line, rest)) =>
    match body state line with
    | some (out, next) => out ++ forEachLine body next rest
    | none => []
  | _ => []
termination_by input.length
decreasing_by exact nextLine_shorter _read

theorem readUntilNewline_line {line : List UInt8} (noNewline : ∀ b ∈ line, b.toNat ≠ 0x0A)
    (rest : List UInt8) : readUntilNewline (line ++ byte '\n' :: rest) = (line ++ [byte '\n'], rest) := by
  induction line with
  | nil => simp [readUntilNewline]
  | cons b line ih =>
    simp only [List.forall_mem_cons] at noNewline
    simp [readUntilNewline, noNewline.1, ih noNewline.2]

theorem readUntilNewline_last {line : List UInt8} (noNewline : ∀ b ∈ line, b.toNat ≠ 0x0A) :
    readUntilNewline line = (line, []) := by
  induction line with
  | nil => rfl
  | cons b line ih =>
    simp only [List.forall_mem_cons] at noNewline
    simp [readUntilNewline, noNewline.1, ih noNewline.2]

@[simp]
theorem stripNewline_append_newline (cs : List Char) :
    stripNewline (cs ++ ['\n']) = if cs.getLast? = some '\r' then cs.dropLast else cs := by
  simp [stripNewline]

theorem stripNewline_of_not_mem {cs : List Char} (noNewline : '\n' ∉ cs) : stripNewline cs = cs :=
  if_neg fun last => noNewline (List.mem_of_getLast?_eq_some last)

theorem nextLine_text {cs : List Char} (noNewline : '\n' ∉ cs) (rest : List UInt8) :
    nextLine (Utf8.encode cs ++ byte '\n' :: rest) = .ok (some (⟨stripNewline (cs ++ ['\n'])⟩, rest)) := by
  have framed : Utf8.encode cs ++ [byte '\n'] = Utf8.encode (cs ++ ['\n']) := by
    rw [Utf8.encode_append]
    rfl
  rw [nextLine, readUntilNewline_line (Utf8.newline_not_mem_encode noNewline), if_neg (by simp), framed,
    Utf8.decode_encode]

theorem nextLine_last {cs : List Char} (noNewline : '\n' ∉ cs) (nonempty : cs ≠ []) :
    nextLine (Utf8.encode cs) = .ok (some (⟨cs⟩, [])) := by
  have bytes : Utf8.encode cs ≠ [] := fun empty => nonempty (by
    simpa [empty, Utf8.decode] using (Utf8.decode_encode cs).symm)
  rw [nextLine, readUntilNewline_last (Utf8.newline_not_mem_encode noNewline), if_neg bytes,
    Utf8.decode_encode]
  simp only [stripNewline_of_not_mem noNewline]

theorem nextLine_nil : nextLine [] = .ok none := rfl

theorem nextLine_invalid {bad : List UInt8} (noNewline : ∀ b ∈ bad, b.toNat ≠ 0x0A)
    (invalid : Utf8.decode (bad ++ [byte '\n']) = none) (rest : List UInt8) :
    nextLine (bad ++ byte '\n' :: rest) = .error .invalidData := by
  simp [nextLine, readUntilNewline_line noNewline, invalid]

theorem nextLine_invalid_last {bad : List UInt8} (noNewline : ∀ b ∈ bad, b.toNat ≠ 0x0A)
    (invalid : Utf8.decode bad = none) : nextLine bad = .error .invalidData := by
  have nonempty : bad ≠ [] := fun empty => by simp [empty, Utf8.decode] at invalid
  simp [nextLine, readUntilNewline_last noNewline, invalid, nonempty]

theorem encodeChar_ne_nil (c : Char) : Utf8.encodeChar c ≠ [] := by
  simp only [Utf8.encodeChar]
  split_ifs <;> simp

theorem encode_eq_append_newline {cs : List Char} {line : List UInt8}
    (same : Utf8.encode cs = line ++ [byte '\n']) : ∃ text, cs = text ++ ['\n'] ∧ Utf8.encode text = line := by
  rcases List.eq_nil_or_concat cs with rfl | ⟨text, c, rfl⟩
  · cases line <;> cases same
  · rw [List.concat_eq_append, Utf8.encode_append, Utf8.encode_cons, show Utf8.encode [] = [] from rfl,
      List.append_nil] at same
    rw [List.concat_eq_append]
    have last := congrArg List.getLast? same
    rw [List.getLast?_append_of_ne_nil _ (encodeChar_ne_nil c), List.getLast?_concat] at last
    obtain rfl : c = '\n' := Utf8.eq_newline_of_mem_encodeChar (List.mem_of_getLast?_eq_some last) rfl
    exact ⟨text, rfl, List.append_cancel_right same⟩

theorem newline_mem_encode {cs : List Char} (inside : '\n' ∈ cs) : byte '\n' ∈ Utf8.encode cs :=
  List.mem_flatMap.mpr ⟨'\n', inside, List.mem_singleton_self _⟩

theorem exists_newline_split (input : List UInt8) :
    (∀ b ∈ input, b.toNat ≠ 0x0A) ∨
      ∃ line rest, (∀ b ∈ line, b.toNat ≠ 0x0A) ∧ input = line ++ byte '\n' :: rest := by
  induction input with
  | nil => exact .inl fun _ => False.elim ∘ List.not_mem_nil _
  | cons b input ih =>
    by_cases newline : b.toNat = 0x0A
    · exact .inr ⟨[], input, fun _ => False.elim ∘ List.not_mem_nil _,
        congrArg (· :: input) (Utf8.ofNat_eq_of_toNat newline).symm⟩
    · rcases ih with last | ⟨line, rest, noNewline, rfl⟩
      · exact .inl (List.forall_mem_cons.mpr ⟨newline, last⟩)
      · exact .inr ⟨b :: line, rest, List.forall_mem_cons.mpr ⟨newline, noNewline⟩, rfl⟩

/-- What `next_line` returns, for any stream: the text of its first line, without the newline
    and a carriage return before it, and the bytes after the newline; or at a stream's end
    without a newline, its last line as it is. -/
theorem nextLine_eq_some_iff {input rest : List UInt8} {line : String} :
    nextLine input = .ok (some (line, rest)) ↔
      ∃ cs, '\n' ∉ cs ∧ (input = Utf8.encode cs ++ byte '\n' :: rest ∧ line = ⟨stripNewline (cs ++ ['\n'])⟩ ∨
        input = Utf8.encode cs ∧ rest = [] ∧ cs ≠ [] ∧ line = ⟨cs⟩) := by
  constructor
  · intro read
    rcases exists_newline_split input with last | ⟨bytes, after, noNewline, rfl⟩
    · have nonempty : input ≠ [] := by rintro rfl; cases read
      rw [nextLine, readUntilNewline_last last, if_neg nonempty] at read
      split at read
      · next cs decoded =>
        cases read
        have free : '\n' ∉ cs := fun inside =>
          last _ (Utf8.encode_of_decode decoded ▸ newline_mem_encode inside) (by decide)
        refine ⟨cs, free, .inr ⟨(Utf8.encode_of_decode decoded).symm, rfl, ?_, ?_⟩⟩
        · rintro rfl; exact nonempty (Utf8.encode_of_decode decoded).symm
        · rw [stripNewline_of_not_mem free]
      · cases read
    · rw [nextLine, readUntilNewline_line noNewline, if_neg (by simp)] at read
      split at read
      · next cs decoded =>
        cases read
        obtain ⟨text, rfl, encoded⟩ := encode_eq_append_newline (Utf8.encode_of_decode decoded)
        exact ⟨text, fun inside => noNewline _ (encoded ▸ newline_mem_encode inside) (by decide),
          .inl ⟨by rw [encoded], rfl⟩⟩
      · cases read
  · rintro ⟨cs, free, ⟨rfl, rfl⟩ | ⟨rfl, rfl, nonempty, rfl⟩⟩
    · exact nextLine_text free rest
    · exact nextLine_last free nonempty

theorem nextLine_eq_none_iff {input : List UInt8} : nextLine input = .ok none ↔ input = [] := by
  refine ⟨fun read => ?_, fun empty => empty ▸ nextLine_nil⟩
  rcases input with _ | ⟨b, input⟩
  · rfl
  · have nonempty : (readUntilNewline (b :: input)).1 ≠ [] := by
      unfold readUntilNewline
      split_ifs <;> simp
    rw [nextLine, if_neg nonempty] at read
    split at read <;> cases read

theorem nextLine_eq_error_iff {input : List UInt8} {e : ReadError} :
    nextLine input = .error e ↔ ∃ bad, (∀ b ∈ bad, b.toNat ≠ 0x0A) ∧
      ((∃ rest, input = bad ++ byte '\n' :: rest ∧ Utf8.decode (bad ++ [byte '\n']) = none) ∨
        input = bad ∧ Utf8.decode bad = none) := by
  cases e
  constructor
  · intro read
    rcases exists_newline_split input with last | ⟨bad, rest, noNewline, rfl⟩
    · refine ⟨input, last, .inr ⟨rfl, ?_⟩⟩
      rw [nextLine, readUntilNewline_last last] at read
      split_ifs at read
      split at read
      · cases read
      · assumption
    · refine ⟨bad, noNewline, .inl ⟨rest, rfl, ?_⟩⟩
      rw [nextLine, readUntilNewline_line noNewline, if_neg (by simp)] at read
      split at read
      · cases read
      · assumption
  · rintro ⟨bad, noNewline, ⟨rest, rfl, invalid⟩ | ⟨rfl, invalid⟩⟩
    · exact nextLine_invalid noNewline invalid rest
    · exact nextLine_invalid_last noNewline invalid

/-- Every stream is a run of newline-terminated UTF-8 lines, then where the line reader stops:
    the end of the stream, a last line without a newline, or a line that is not UTF-8. -/
theorem exists_lines (input : List UInt8) :
    ∃ (lines : List String) (tail : List UInt8), (∀ l ∈ lines, '\n' ∉ l.data) ∧
      input = (lines.flatMap fun l => Utf8.encode l.data ++ [byte '\n']) ++ tail ∧
      (tail = [] ∨ (∃ last : String, '\n' ∉ last.data ∧ tail = Utf8.encode last.data) ∨
        nextLine tail = .error .invalidData) := by
  induction input using WellFounded.induction (measure List.length).wf with
  | h input ih =>
  cases read : nextLine input with
  | error e => cases e; exact ⟨[], input, by simp, rfl, .inr (.inr read)⟩
  | ok result =>
    rcases result with _ | ⟨line, rest⟩
    · exact ⟨[], [], by simp, nextLine_eq_none_iff.mp read, .inl rfl⟩
    · obtain ⟨cs, free, ⟨rfl, -⟩ | ⟨rfl, -, -, -⟩⟩ := nextLine_eq_some_iff.mp read
      · obtain ⟨lines, tail, noNewline, rfl, ends⟩ := ih rest (nextLine_shorter read)
        refine ⟨⟨cs⟩ :: lines, tail, List.forall_mem_cons.mpr ⟨free, noNewline⟩, ?_, ends⟩
        simp
      · exact ⟨[], Utf8.encode cs, by simp, rfl, .inr (.inl ⟨⟨cs⟩, free, rfl⟩)⟩

section

variable {σ α : Type} (body : σ → String → Option (List α × σ))

theorem forEachLine_of_line {state : σ} {input rest : List UInt8} {line : String}
    (read : nextLine input = .ok (some (line, rest))) :
    forEachLine body state input =
      match body state line with
      | some (out, next) => out ++ forEachLine body next rest
      | none => [] := by
  rw [forEachLine]
  split
  · next line' rest' read' =>
    rw [read] at read'
    cases read'
    rfl
  · next other => exact absurd read (other line rest)

theorem forEachLine_stop {state : σ} {input : List UInt8}
    (stop : ∀ line rest, nextLine input ≠ .ok (some (line, rest))) : forEachLine body state input = [] := by
  rw [forEachLine]
  split
  · next line rest read => exact absurd read (stop line rest)
  · rfl

theorem forEachLine_error {state : σ} {input : List UInt8} (failed : nextLine input = .error .invalidData) :
    forEachLine body state input = [] :=
  forEachLine_stop body fun _ _ => by simp [failed]

theorem forEachLine_nil (state : σ) : forEachLine body state [] = [] :=
  forEachLine_stop body fun _ _ => by simp [nextLine_nil]

theorem forEachLine_mem {state : σ} {input : List UInt8} {x : α} (member : x ∈ forEachLine body state input) :
    ∃ state line out next, body state line = some (out, next) ∧ x ∈ out := by
  induction state, input using forEachLine.induct body with
  | case1 state _ line _ read out next emitted ih =>
    rw [forEachLine_of_line body read, emitted] at member
    rcases List.mem_append.mp member with here | later
    · exact ⟨state, line, out, next, emitted, here⟩
    · exact ih later
  | case2 _ _ _ _ read stopped => rw [forEachLine_of_line body read, stopped] at member; cases member
  | case3 _ _ stop => rw [forEachLine_stop body stop] at member; cases member

theorem forEachLine_silent (silent : ∀ state line out next, body state line = some (out, next) → out = [])
    (state : σ) (input : List UInt8) : forEachLine body state input = [] :=
  List.eq_nil_iff_forall_not_mem.mpr fun _ member => by
    obtain ⟨_, _, _, _, emitted, inside⟩ := forEachLine_mem body member
    rw [silent _ _ _ _ emitted] at inside
    cases inside

end

end Parlance.Lines
