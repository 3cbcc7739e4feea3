import Parlance.Network.Messaging.Send
import Parlance.Wire.Lines

namespace Parlance.Messaging

open Json Lines

def connectionLine (channelOpen : Bool) (line : String) : Option (List MessageEvent) :=
  match TextMessage.fromStr line with
  | .ok msg => if channelOpen then some [.received msg] else none
  | .error _ => some []

/-- `handle_connection` on the bytes that arrive before the peer closes the connection, with the
    event channel open or closed: the events it sends. -/
def handleConnection (channelOpen : Bool) (input : List UInt8) : List MessageEvent :=
  forEachLine (fun () line => (connectionLine channelOpen line).map (·, ())) () input

theorem handleConnection_of_line {channelOpen : Bool} {input rest : List UInt8} {line : String}
    (read : nextLine input = .ok (some (line, rest))) :
    handleConnection channelOpen input =
      match connectionLine channelOpen line with
      | some out => out ++ handleConnection channelOpen rest
      | none => [] := by
  rw [handleConnection, forEachLine_of_line _ read]
  cases connectionLine channelOpen line <;> rfl

theorem handleConnection_line {input rest : List UInt8} {line : String}
    (read : nextLine input = .ok (some (line, rest))) :
    handleConnection true input =
      ((TextMessage.fromStr line).toOption.map .received).toList ++ handleConnection true rest := by
  rw [handleConnection_of_line read, connectionLine]
  cases TextMessage.fromStr line <;> rfl

theorem handleConnection_nil (channelOpen : Bool) : handleConnection channelOpen [] = [] :=
  forEachLine_nil _ ()

theorem handleConnection_invalid {channelOpen : Bool} {input : List UInt8}
    (invalid : nextLine input = .error .invalidData) : handleConnection channelOpen input = [] :=
  forEachLine_error _ invalid

theorem handleConnection_closed (input : List UInt8) : handleConnection false input = [] :=
  forEachLine_silent _ (fun () line out () emitted => by
    revert emitted
    simp only [connectionLine]
    cases TextMessage.fromStr line <;> simp) () input

theorem handleConnection_text_line {cs : List Char} (noNewline : '\n' ∉ cs) (rest : List UInt8) :
    handleConnection true (Utf8.encode cs ++ byte '\n' :: rest) =
      ((TextMessage.fromStr ⟨stripNewline (cs ++ ['\n'])⟩).toOption.map .received).toList ++
        handleConnection true rest :=
  handleConnection_line (nextLine_text noNewline rest)

theorem newline_not_mem_text {m : TextMessage} {cs : List Char} (same : Utf8.encode cs = m.toVec) :
    '\n' ∉ cs := fun inside =>
  newline_not_mem_toVec m (byte '\n') (same ▸ List.mem_flatMap.mpr ⟨'\n', inside, by decide⟩) rfl

theorem getLast?_text_ne_cr {m : TextMessage} {cs : List Char} (same : Utf8.encode cs = m.toVec) :
    cs.getLast? ≠ some '\r' := fun last => by
  obtain ⟨front, rfl⟩ := List.getLast?_eq_some_iff.mp last
  have ends := congrArg List.getLast? same
  rw [Utf8.encode_append, show Utf8.encode ['\r'] = [13] by decide, List.getLast?_concat,
    getLast?_toVec] at ends
  exact absurd ends (by decide)

theorem handleConnection_frame (m : TextMessage) (rest : List UInt8) :
    handleConnection true (m.toVec ++ byte '\n' :: rest) = .received m :: handleConnection true rest := by
  obtain ⟨cs, same⟩ := isText_toVec m
  rw [← same, handleConnection_text_line (newline_not_mem_text same), stripNewline_append_newline,
    if_neg (getLast?_text_ne_cr same), @fromStr_of_encode ⟨cs⟩ m same]
  rfl

theorem handleConnection_frames (ms : List TextMessage) :
    handleConnection true (ms.flatMap fun m => m.toVec ++ [byte '\n']) = ms.map .received := by
  induction ms with
  | nil => exact handleConnection_nil true
  | cons m ms ih =>
    rw [List.flatMap_cons, List.append_assoc, List.singleton_append, handleConnection_frame, ih]
    rfl

/-- A run of newline-terminated UTF-8 lines: a `Received` for each that is a `TextMessage`. -/
theorem handleConnection_lines {lines : List String} (noNewline : ∀ l ∈ lines, '\n' ∉ l.data)
    (rest : List UInt8) :
    handleConnection true ((lines.flatMap fun l => Utf8.encode l.data ++ [byte '\n']) ++ rest) =
      (lines.filterMap fun l => (TextMessage.fromStr ⟨stripNewline (l.data ++ ['\n'])⟩).toOption).map
        .received ++ handleConnection true rest := by
  induction lines with
  | nil => rfl
  | cons l lines ih =>
    rw [List.forall_mem_cons] at noNewline
    rw [List.flatMap_cons, List.append_assoc, List.append_assoc, List.singleton_append,
      handleConnection_text_line noNewline.1, ih noNewline.2, List.filterMap_cons]
    cases (TextMessage.fromStr _).toOption <;> rfl

theorem handleConnection_last (last : String) (noNewline : '\n' ∉ last.data) :
    handleConnection true (Utf8.encode last.data) = ((TextMessage.fromStr last).toOption.map .received).toList := by
  by_cases empty : last.data = []
  · obtain ⟨data⟩ := last
    obtain rfl : data = [] := empty
    exact handleConnection_nil true
  · rw [handleConnection_line (nextLine_last noNewline empty), handleConnection_nil, List.append_nil]

/-- What the handler sends for any stream, its event channel open: the stream is a run of
    newline-terminated UTF-8 lines and a tail, and the handler sends a `Received` for each of
    those lines that is a `TextMessage`, in order; then one for the tail if it is a last line
    without a newline that is a `TextMessage`, and nothing when the tail is empty or starts with
    a line that is not UTF-8. -/
theorem handleConnection_any (input : List UInt8) :
    ∃ (lines : List String) (tail : List UInt8), (∀ l ∈ lines, '\n' ∉ l.data) ∧
      input = (lines.flatMap fun l => Utf8.encode l.data ++ [byte '\n']) ++ tail ∧
      ((tail = [] ∨ nextLine tail = .error .invalidData) ∧
          handleConnection true input =
            (lines.filterMap fun l => (TextMessage.fromStr ⟨stripNewline (l.data ++ ['\n'])⟩).toOption).map
              .received ∨
        ∃ last : String, '\n' ∉ last.data ∧ tail = Utf8.encode last.data ∧
          handleConnection true input =
            (lines.filterMap fun l => (TextMessage.fromStr ⟨stripNewline (l.data ++ ['\n'])⟩).toOption).map
              .received ++ ((TextMessage.fromStr last).toOption.map .received).toList) := by
  obtain ⟨lines, tail, noNewline, rfl, ends⟩ := exists_lines input
  refine ⟨lines, tail, noNewline, rfl, ?_⟩
  rw [handleConnection_lines noNewline]
  rcases ends with rfl | ⟨last, free, rfl⟩ | invalid
  · exact .inl ⟨.inl rfl, by rw [handleConnection_nil, List.append_nil]⟩
  · exact .inr ⟨last, free, rfl, congrArg (_ ++ ·) (handleConnection_last last free)⟩
  · exact .inl ⟨.inr invalid, by rw [handleConnection_invalid invalid, List.append_nil]⟩

/-- Each frame a send writes is the JSON and one newline, which the JSON never holds; a send to
    a nickname in the registry over a network that lets every operation through succeeds and
    writes it; and the handler reads a run of frames back as the messages they carry, in order. -/
theorem frames_received_in_order :
    (∀ {ε : Type} (net : NetOp → Except ε Unit) (nickname : String) (registry : PeerRegistry)
        (toNickname content : String) (now : I64),
      ((sendMessage nickname registry toNickname content now net).result = .ok () →
        (sendMessage nickname registry toNickname content now net).ops.flatMap NetOp.written =
          (⟨nickname, content, now⟩ : TextMessage).toVec ++ [byte '\n']) ∧
      ((sendToPeer nickname toNickname content registry now net).1 = .ok () →
        (sendToPeer nickname toNickname content registry now net).2.flatMap NetOp.written =
          (⟨nickname, content, now⟩ : TextMessage).toVec ++ [byte '\n']) ∧
      ((∃ p ∈ registry.getAll, p.nickname = toNickname) → (∀ op, net op = .ok ()) →
        (sendMessage nickname registry toNickname content now net).result = .ok () ∧
        (sendMessage nickname registry toNickname content now net).ops.flatMap NetOp.written =
          (⟨nickname, content, now⟩ : TextMessage).toVec ++ [byte '\n'] ∧
        (sendToPeer nickname toNickname content registry now net).1 = .ok () ∧
        (sendToPeer nickname toNickname content registry now net).2.flatMap NetOp.written =
          (⟨nickname, content, now⟩ : TextMessage).toVec ++ [byte '\n'])) ∧
    (∀ m : TextMessage, ∀ b ∈ m.toVec, b.toNat ≠ 0x0A) ∧
    ∀ ms : List TextMessage,
      handleConnection true (ms.flatMap fun m => m.toVec ++ [byte '\n']) = ms.map .received := by
  refine ⟨fun net nickname registry toNickname content now =>
    ⟨fun sent => ?_, written_of_deliver_ok net, fun present reliable => ?_⟩, newline_not_mem_toVec,
    handleConnection_frames⟩
  · have same := Prod.ext_iff.mp (sendMessage_result_ops net nickname toNickname content registry now)
    dsimp only at same
    rw [same.2]
    exact written_of_deliver_ok net (same.1 ▸ sent)
  · obtain ⟨peer, delivered⟩ := deliver_reliable net reliable present
    have same := sendMessage_result_ops net nickname toNickname content registry now
    rw [delivered] at same
    obtain ⟨succeeded, attempted⟩ := Prod.mk.inj same
    have written := written_deliveryOps peer.addr ⟨nickname, content, now⟩
    exact ⟨succeeded, attempted ▸ written, congrArg Prod.fst delivered,
      (congrArg (fun d => d.2.flatMap NetOp.written) delivered).trans written⟩

/-- A line that is not UTF-8 ends the connection: the message on the line after it, which alone
    is received, never is. -/
theorem nonUtf8_line_cuts_off_next_line :
    handleConnection true ((⟨"Alice", "hi", ⟨0, by decide⟩⟩ : TextMessage).toVec ++ [byte '\n']) =
        [.received ⟨"Alice", "hi", ⟨0, by decide⟩⟩] ∧
      handleConnection true ([0xFF, 0x0A] ++
        ((⟨"Alice", "hi", ⟨0, by decide⟩⟩ : TextMessage).toVec ++ [byte '\n'])) = [] :=
  ⟨by rw [handleConnection_frame, handleConnection_nil], handleConnection_invalid rfl⟩

/-- What the handler sends for a stream, its event channel open: a `Received` for each UTF-8
    line that is a `TextMessage`, in order, other lines skipped, and nothing from the first line
    that is not UTF-8 on, which ends the loop as a read error. -/
theorem handleConnection_spec :
    (∀ (lines : List String) (rest : List UInt8), (∀ l ∈ lines, '\n' ∉ l.data) →
      handleConnection true ((lines.flatMap fun l => Utf8.encode l.data ++ [byte '\n']) ++ rest) =
        (lines.filterMap fun l => (TextMessage.fromStr ⟨stripNewline (l.data ++ ['\n'])⟩).toOption).map
          .received ++ handleConnection true rest) ∧
    (∀ last : String, '\n' ∉ last.data →
      handleConnection true (Utf8.encode last.data) =
        ((TextMessage.fromStr last).toOption.map .received).toList) ∧
    (∀ bad rest : List UInt8, (∀ b ∈ bad, b.toNat ≠ 0x0A) → Utf8.decode (bad ++ [byte '\n']) = none →
      handleConnection true (bad ++ byte '\n' :: rest) = []) ∧
    ∀ bad : List UInt8, (∀ b ∈ bad, b.toNat ≠ 0x0A) → Utf8.decode bad = none →
      handleConnection true bad = [] := by
  exact ⟨fun lines rest noNewline => handleConnection_lines noNewline rest, handleConnection_last,
    fun bad rest noNewline invalid => handleConnection_invalid (nextLine_invalid noNewline invalid rest),
    fun bad noNewline invalid => handleConnection_invalid (nextLine_invalid_last noNewline invalid)⟩

end Parlance.Messaging
