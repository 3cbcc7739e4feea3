import Parlance.Wire.Json.Value

namespace Parlance.Discovery

open Json

inductive DiscoveryMessage where
  | announce (nickname : String) (tcpPort : UInt16)
  | goodbye (nickname : String)
deriving DecidableEq, Repr

def DiscoveryMessage.toVec : DiscoveryMessage → List UInt8
  | .announce nickname tcpPort =>
    writeObject [("type", writeStr "announce"), ("nickname", writeStr nickname),
      ("tcp_port", writeU64 tcpPort.toNat)]
  | .goodbye nickname => writeObject [("type", writeStr "goodbye"), ("nickname", writeStr nickname)]

inductive DiscoveryTag where
  | announce
  | goodbye
deriving DecidableEq, Repr

def DiscoveryTag.ofStr (s : String) : Except ErrorCode DiscoveryTag :=
  if s = "announce" then .ok .announce
  else if s = "goodbye" then .ok .goodbye
  else .error (.unknownVariant s ["announce", "goodbye"])

def deserializeTag (input : List UInt8) : Read DiscoveryTag :=
  match skipWhitespace input with
  | [] => .error .eofWhileParsingValue
  | b :: rest =>
    if isChar b '"' then
      match parseStr rest with
      | .ok (s, rest) => (DiscoveryTag.ofStr s).map (·, rest)
      | .error e => .error e
    else .error (peekInvalidType "variant identifier" (b :: rest))

def visitAnnounceSeq (items : List Content) : Except ErrorCode DiscoveryMessage :=
  let expected := "struct variant DiscoveryMessage::Announce with 2 elements"
  match items with
  | [] => .error (.invalidLength 0 expected)
  | nickname :: items =>
    match nickname.toStr with
    | .error e => .error e
    | .ok nickname =>
      match items with
      | [] => .error (.invalidLength 1 expected)
      | tcpPort :: items =>
        match tcpPort.toU16 with
        | .error e => .error e
        | .ok tcpPort =>
          match items with
          | [] => .ok (.announce nickname tcpPort)
          | extra => .error (.invalidLength (2 + extra.length) (expectedInSeq 2))

def visitAnnounceMap : List (String × Content) → Option String → Option UInt16 →
    Except ErrorCode DiscoveryMessage
  | [], nickname, tcpPort =>
    match nickname, tcpPort with
    | some nickname, some tcpPort => .ok (.announce nickname tcpPort)
    | none, _ => .error (.missingField "nickname")
    | some _, none => .error (.missingField "tcp_port")
  | (key, value) :: entries, nickname, tcpPort =>
    if key = "nickname" then
      if nickname.isSome then .error (.duplicateField "nickname")
      else
        match value.toStr with
        | .ok v => visitAnnounceMap entries (some v) tcpPort
        | .error e => .error e
    else if key = "tcp_port" then
      if tcpPort.isSome then .error (.duplicateField "tcp_port")
      else
        match value.toU16 with
        | .ok v => visitAnnounceMap entries nickname (some v)
        | .error e => .error e
    else visitAnnounceMap entries nickname tcpPort

def visitGoodbyeSeq (items : List Content) : Except ErrorCode DiscoveryMessage :=
  match items with
  | [] => .error (.invalidLength 0 "struct variant DiscoveryMessage::Goodbye with 1 element")
  | nickname :: items =>
    match nickname.toStr with
    | .error e => .error e
    | .ok nickname =>
      match items with
      | [] => .ok (.goodbye nickname)
      | extra => .error (.invalidLength (1 + extra.length) (expectedInSeq 1))

def visitGoodbyeMap : List (String × Content) → Option String → Except ErrorCode DiscoveryMessage
  | [], nickname =>
    match nickname with
    | some nickname => .ok (.goodbye nickname)
    | none => .error (.missingField "nickname")
  | (key, value) :: entries, nickname =>
    if key = "nickname" then
      if nickname.isSome then .error (.duplicateField "nickname")
      else
        match value.toStr with
        | .ok v => visitGoodbyeMap entries (some v)
        | .error e => .error e
    else visitGoodbyeMap entries nickname

def DiscoveryMessage.ofContent : DiscoveryTag → Content → Except ErrorCode DiscoveryMessage
  | .announce, .seq items => visitAnnounceSeq items
  | .announce, .map entries => visitAnnounceMap entries none none
  | .announce, c => .error (.invalidType c.unexpected "struct variant DiscoveryMessage::Announce")
  | .goodbye, .seq items => visitGoodbyeSeq items
  | .goodbye, .map entries => visitGoodbyeMap entries none
  | .goodbye, c => .error (.invalidType c.unexpected "struct variant DiscoveryMessage::Goodbye")

def DiscoveryMessage.fromSlice (data : List UInt8) : Except ErrorCode DiscoveryMessage :=
  match deserializeTagged "type" "internally tagged enum DiscoveryMessage" deserializeTag 128 data with
  | .error e => .error e
  | .ok ((tag, content), rest) =>
    match DiscoveryMessage.ofContent tag content with
    | .error e => .error e
    | .ok msg => (endOfInput rest).map fun _ => msg

theorem deserializeTag_writeStr (s : String) (rest : List UInt8) :
    deserializeTag (writeStr s ++ rest) = (DiscoveryTag.ofStr s).map (·, rest) := by
  rw [writeStr, List.cons_append, List.append_assoc, List.singleton_append, deserializeTag,
    skipWhitespace_byte '"' (by decide)]
  simp only [show isChar (byte '"') '"' = true by decide, if_true, parseStr_escape]

theorem visitTaggedEntries_announce (depth : Nat) (nickname : String) (tcpPort : UInt16) {fuel : Nat}
    (enough : 4 ≤ fuel) (rest : List UInt8) :
    visitTaggedEntries "type" deserializeTag (parseContent depth) fuel true none []
      (writeStr "type" ++ byte ':' :: (writeStr "announce" ++ byte ',' :: (writeStr "nickname" ++
        byte ':' :: (writeStr nickname ++ byte ',' :: (writeStr "tcp_port" ++ byte ':' ::
          (writeU64 tcpPort.toNat ++ byte '}' :: rest)))))) =
      .ok ((some .announce, [("nickname", .string nickname),
        ("tcp_port", (classify true (UInt64.ofNat tcpPort.toNat)).content)]), byte '}' :: rest) := by
  obtain ⟨fuel, rfl⟩ := Nat.exists_eq_add_of_le' enough
  have ends : EndsNumber (byte '}' :: rest) := endsNumber_byte (by decide) rest
  have small : tcpPort.toNat < 2 ^ 64 := by have := tcpPort.toNat_lt_size; simp only [UInt16.size] at this; omega
  rw [visitTaggedEntries_tag (nextKey_writeStr _ _)
      ((nextValue_colon _ _).trans ((deserializeTag_writeStr "announce" _).trans rfl)),
    visitTaggedEntries_other (nextKey_comma _ _) (show "nickname" ≠ "type" by decide)
      ((nextValue_colon _ _).trans (parseContent_writeStr _ _ _)),
    visitTaggedEntries_other (nextKey_comma _ _) (show "tcp_port" ≠ "type" by decide)
      ((nextValue_colon _ _).trans (parseContent_writeU64 _ small ends)),
    visitTaggedEntries_done (nextKey_close _ _)]
  rfl

theorem visitTaggedEntries_goodbye (depth : Nat) (nickname : String) {fuel : Nat} (enough : 3 ≤ fuel)
    (rest : List UInt8) :
    visitTaggedEntries "type" deserializeTag (parseContent depth) fuel true none []
      (writeStr "type" ++ byte ':' :: (writeStr "goodbye" ++ byte ',' :: (writeStr "nickname" ++
        byte ':' :: (writeStr nickname ++ byte '}' :: rest)))) =
      .ok ((some .goodbye, [("nickname", .string nickname)]), byte '}' :: rest) := by
  obtain ⟨fuel, rfl⟩ := Nat.exists_eq_add_of_le' enough
  rw [visitTaggedEntries_tag (nextKey_writeStr _ _)
      ((nextValue_colon _ _).trans ((deserializeTag_writeStr "goodbye" _).trans rfl)),
    visitTaggedEntries_other (nextKey_comma _ _) (show "nickname" ≠ "type" by decide)
      ((nextValue_colon _ _).trans (parseContent_writeStr _ _ _)),
    visitTaggedEntries_done (nextKey_close _ _)]
  rfl

theorem toVec_announce (nickname : String) (tcpPort : UInt16) :
    (DiscoveryMessage.announce nickname tcpPort).toVec = byte '{' :: (writeStr "type" ++ byte ':' ::
      (writeStr "announce" ++ byte ',' :: (writeStr "nickname" ++ byte ':' :: (writeStr nickname ++
        byte ',' :: (writeStr "tcp_port" ++ byte ':' :: (writeU64 tcpPort.toNat ++ byte '}' :: [])))))) := by
  simp [DiscoveryMessage.toVec, writeObject, writeMember]

theorem toVec_goodbye (nickname : String) :
    (DiscoveryMessage.goodbye nickname).toVec = byte '{' :: (writeStr "type" ++ byte ':' ::
      (writeStr "goodbye" ++ byte ',' :: (writeStr "nickname" ++ byte ':' ::
        (writeStr nickname ++ byte '}' :: [])))) := by
  simp [DiscoveryMessage.toVec, writeObject, writeMember]

theorem fromSlice_toVec (m : DiscoveryMessage) : DiscoveryMessage.fromSlice m.toVec = .ok m := by
  cases m with
  | announce nickname tcpPort =>
    rw [toVec_announce, DiscoveryMessage.fromSlice, deserializeTagged_object _ _ _ (by decide),
      visitTaggedEntries_announce _ _ _ (by simp [writeStr]; omega)]
    simp only [endMap_close, Except.map]
    simp [DiscoveryMessage.ofContent, visitAnnounceMap, Content.toStr, toU16_classify, endOfInput, skipWhitespace]
  | goodbye nickname =>
    rw [toVec_goodbye, DiscoveryMessage.fromSlice, deserializeTagged_object _ _ _ (by decide),
      visitTaggedEntries_goodbye _ _ (by simp [writeStr]; omega)]
    simp only [endMap_close, Except.map]
    simp [DiscoveryMessage.ofContent, visitGoodbyeMap, Content.toStr, endOfInput, skipWhitespace]

theorem parseContent_toVec {depth : Nat} (deep : 2 ≤ depth) (m : DiscoveryMessage) :
    ∃ tag fields, (tag = "announce" ∨ tag = "goodbye") ∧
      parseContent depth m.toVec = .ok (.map (("type", .string tag) :: fields), []) := by
  cases m with
  | announce nickname tcpPort =>
    refine ⟨"announce", [("nickname", .string nickname),
      ("tcp_port", (classify true (UInt64.ofNat tcpPort.toNat)).content)], .inl rfl, ?_⟩
    have ends : EndsNumber [byte '}'] := endsNumber_byte (by decide) []
    have small : tcpPort.toNat < 2 ^ 64 := by have := tcpPort.toNat_lt_size; simp only [UInt16.size] at this; omega
    rw [toVec_announce, parseContent_object deep]
    obtain ⟨fuel, enough⟩ := Nat.exists_eq_add_of_le' (show 4 ≤ (writeStr "type" ++ byte ':' ::
      (writeStr "announce" ++ byte ',' :: (writeStr "nickname" ++ byte ':' :: (writeStr nickname ++
        byte ',' :: (writeStr "tcp_port" ++ byte ':' :: (writeU64 tcpPort.toNat ++ [byte '}'])))))).length + 1
      by simp [writeStr]; omega)
    rw [enough, parseEntries_next (nextKey_writeStr _ _) ((nextValue_colon _ _).trans (parseContent_writeStr _ _ _)),
      parseEntries_next (nextKey_comma _ _) ((nextValue_colon _ _).trans (parseContent_writeStr _ _ _)),
      parseEntries_next (nextKey_comma _ _) ((nextValue_colon _ _).trans (parseContent_writeU64 _ small ends)),
      parseEntries_done (nextKey_close _ _)]
    simp only [endMap_close]
    rfl
  | goodbye nickname =>
    refine ⟨"goodbye", [("nickname", .string nickname)], .inr rfl, ?_⟩
    rw [toVec_goodbye, parseContent_object deep]
    obtain ⟨fuel, enough⟩ := Nat.exists_eq_add_of_le' (show 3 ≤ (writeStr "type" ++ byte ':' ::
      (writeStr "goodbye" ++ byte ',' :: (writeStr "nickname" ++ byte ':' ::
        (writeStr nickname ++ [byte '}'])))).length + 1 by simp [writeStr]; omega)
    rw [enough, parseEntries_next (nextKey_writeStr _ _) ((nextValue_colon _ _).trans (parseContent_writeStr _ _ _)),
      parseEntries_next (nextKey_comma _ _) ((nextValue_colon _ _).trans (parseContent_writeStr _ _ _)),
      parseEntries_done (nextKey_close _ _)]
    simp only [endMap_close]
    rfl

/-- The announce task's datagram, and the goodbye's, is one JSON object whose `type` is
    `announce` or `goodbye`, and `from_slice`, as the listen task calls it, always reads back the
    message written: the same variant, nickname and port. -/
theorem discovery_message_round_trip (m : DiscoveryMessage) :
    (∃ tag fields, (tag = "announce" ∨ tag = "goodbye") ∧
      parseContent 128 m.toVec = .ok (.map (("type", .string tag) :: fields), [])) ∧
      DiscoveryMessage.fromSlice m.toVec = .ok m :=
  ⟨parseContent_toVec (by decide) m, fromSlice_toVec m⟩

/-- An entry of a discovery datagram's object as any writer may send it: the tag, a field of a
    variant, or another key with any JSON value. -/
inductive DiscoveryEntry where
  | type (tag : String)
  | nickname (s : String)
  | tcpPort (x : JsonNumber)
  | other (key : String) (value : Value)

def DiscoveryEntry.write : DiscoveryEntry → String × List UInt8
  | .type tag => ("type", writeStr tag)
  | .nickname s => ("nickname", writeStr s)
  | .tcpPort x => ("tcp_port", x.write)
  | .other key value => (key, value.write)

/-- The content `TaggedContentVisitor` keeps for the entry, read at the depth left inside the
    datagram's object; `none` for the tag. -/
def DiscoveryEntry.content : DiscoveryEntry → Except ErrorCode (Option (String × Content))
  | .type _ => .ok none
  | .nickname s => .ok (some ("nickname", .string s))
  | .tcpPort x => x.read.map fun n => some ("tcp_port", n.content)
  | .other key value => (value.contentAt 127).map fun c => some (key, c)

end Parlance.Discovery
