import Parlance.Wire.Json.Value

namespace Parlance.Messaging

open Json

structure TextMessage where
  «from» : String
  content : String
  timestamp : I64
deriving DecidableEq, Repr

def TextMessage.toVec (m : TextMessage) : List UInt8 :=
  writeObject [("from", writeStr m.from), ("content", writeStr m.content),
    ("timestamp", writeI64 m.timestamp.val)]

inductive TextField where
  | «from»
  | content
  | timestamp
  | ignore
deriving DecidableEq, Repr

def TextField.ofKey : String → TextField
  | "from" => .from
  | "content" => .content
  | "timestamp" => .timestamp
  | _ => .ignore

structure TextFields where
  «from» : Option String
  content : Option String
  timestamp : Option I64
deriving DecidableEq, Repr

def readField {α : Type} (name : String) (seen : Bool) (read : List UInt8 → Read α)
    (store : α → TextFields) (input : List UInt8) : Read TextFields :=
  if seen then .error (.duplicateField name)
  else (nextValue read input).map fun (v, rest) => (store v, rest)

def readEntry (fields : TextFields) (key : String) (input : List UInt8) : Read TextFields :=
  match TextField.ofKey key with
  | .from => readField "from" fields.from.isSome deserializeString
      (fun v => { fields with «from» := some v }) input
  | .content => readField "content" fields.content.isSome deserializeString
      (fun v => { fields with content := some v }) input
  | .timestamp => readField "timestamp" fields.timestamp.isSome deserializeI64
      (fun v => { fields with timestamp := some v }) input
  | .ignore => (nextValue (fun input => (ignoreAny input).map ((), ·)) input).map
      fun (_, rest) => (fields, rest)

def visitMap : (fuel : Nat) → (first : Bool) → TextFields → List UInt8 → Read TextFields
  | 0, _, _, _ => .error .eofWhileParsingObject
  | fuel + 1, first, fields, input =>
    match nextKey first input with
    | .error e => .error e
    | .ok (none, rest) => .ok (fields, rest)
    | .ok (some key, rest) =>
      match readEntry fields key rest with
      | .ok (fields, rest) => visitMap fuel false fields rest
      | .error e => .error e

def TextFields.finish (fields : TextFields) : Except ErrorCode TextMessage :=
  match fields.from, fields.content, fields.timestamp with
  | some f, some c, some t => .ok ⟨f, c, t⟩
  | none, _, _ => .error (.missingField "from")
  | some _, none, _ => .error (.missingField "content")
  | some _, some _, none => .error (.missingField "timestamp")

def visitSeq (input : List UInt8) : Read TextMessage :=
  let expected := "struct TextMessage with 3 elements"
  match nextElement true deserializeString input with
  | .error e => .error e
  | .ok (none, _) => .error (.invalidLength 0 expected)
  | .ok (some f, rest) =>
    match nextElement false deserializeString rest with
    | .error e => .error e
    | .ok (none, _) => .error (.invalidLength 1 expected)
    | .ok (some c, rest) =>
      match nextElement false deserializeI64 rest with
      | .error e => .error e
      | .ok (none, _) => .error (.invalidLength 2 expected)
      | .ok (some t, rest) => .ok (⟨f, c, t⟩, rest)

def deserialize (input : List UInt8) : Read TextMessage :=
  match skipWhitespace input with
  | [] => .error .eofWhileParsingValue
  | b :: rest =>
    if isChar b '[' then
      match visitSeq rest with
      | .ok (m, rest) => (endSeq rest).map (m, ·)
      | .error e => .error e
    else if isChar b '{' then
      match visitMap (rest.length + 1) true ⟨none, none, none⟩ rest with
      | .ok (fields, rest) =>
        match fields.finish with
        | .ok m => (endMap rest).map (m, ·)
        | .error e => .error e
      | .error e => .error e
    else .error (peekInvalidType "struct TextMessage" (b :: rest))

def TextMessage.fromStr (s : String) : Except ErrorCode TextMessage :=
  match deserialize (Utf8.encode s.data) with
  | .ok (m, rest) => (endOfInput rest).map fun _ => m
  | .error e => .error e

def twoDigits (n : Nat) : String := ⟨[Char.ofNat (0x30 + n / 10), Char.ofNat (0x30 + n % 10)]⟩

/-- `DateTime::from_timestamp(timestamp, 0)` formatted by `"%H:%M:%S"`: the time of day in UTC,
    or `"??:??:??"` outside chrono's range of dates, `representable`, which the version of chrono
    fixes. -/
def clockText (representable : I64 → Bool) (timestamp : I64) : String :=
  if representable timestamp then
    let secs := (timestamp.val % 86400).toNat
    twoDigits (secs / 3600) ++ ":" ++ twoDigits (secs / 60 % 60) ++ ":" ++ twoDigits (secs % 60)
  else "??:??:??"

def TextMessage.format (representable : I64 → Bool) (m : TextMessage) : String :=
  "[" ++ clockText representable m.timestamp ++ "] " ++ m.from ++ ": " ++ m.content

theorem visitMap_next {fuel : Nat} {first : Bool} {fields next : TextFields} {input after rest : List UInt8}
    {key : String} (found : nextKey first input = .ok (some key, after))
    (read : readEntry fields key after = .ok (next, rest)) :
    visitMap (fuel + 1) first fields input = visitMap fuel false next rest := by
  rw [visitMap, found]
  simp only [read]

theorem visitMap_done {fuel : Nat} {first : Bool} {fields : TextFields} {input rest : List UInt8}
    (found : nextKey first input = .ok (none, rest)) :
    visitMap (fuel + 1) first fields input = .ok (fields, rest) := by
  rw [visitMap, found]

theorem readField_unseen {α : Type} (name : String) (read : List UInt8 → Read α) (store : α → TextFields)
    {input : List UInt8} {v : α} {rest : List UInt8} (value : read input = .ok (v, rest)) :
    readField name false read store (byte ':' :: input) = .ok (store v, rest) := by
  rw [readField, nextValue, parseObjectColon_colon]
  simp only [value, Bool.false_eq_true, if_false]
  rfl

theorem readEntry_from (fields : TextFields) (input : List UInt8) :
    readEntry fields "from" input = readField "from" fields.from.isSome deserializeString
      (fun v => { fields with «from» := some v }) input := rfl

theorem readEntry_content (fields : TextFields) (input : List UInt8) :
    readEntry fields "content" input = readField "content" fields.content.isSome deserializeString
      (fun v => { fields with content := some v }) input := rfl

theorem readEntry_timestamp (fields : TextFields) (input : List UInt8) :
    readEntry fields "timestamp" input = readField "timestamp" fields.timestamp.isSome deserializeI64
      (fun v => { fields with timestamp := some v }) input := rfl

theorem visitMap_fields (m : TextMessage) {fuel : Nat} (enough : 4 ≤ fuel) (rest : List UInt8) :
    visitMap fuel true ⟨none, none, none⟩ (writeStr "from" ++ byte ':' :: (writeStr m.from ++
      byte ',' :: (writeStr "content" ++ byte ':' :: (writeStr m.content ++ byte ',' ::
        (writeStr "timestamp" ++ byte ':' :: (writeI64 m.timestamp.val ++ byte '}' :: rest)))))) =
      .ok (⟨some m.from, some m.content, some m.timestamp⟩, byte '}' :: rest) := by
  obtain ⟨fuel, rfl⟩ := Nat.exists_eq_add_of_le' enough
  have ends : EndsNumber (byte '}' :: rest) := endsNumber_byte (by decide) rest
  rw [visitMap_next (nextKey_writeStr _ _)
      ((readEntry_from _ _).trans (readField_unseen _ _ _ (deserializeString_writeStr _ _))),
    visitMap_next (nextKey_comma _ _)
      ((readEntry_content _ _).trans (readField_unseen _ _ _ (deserializeString_writeStr _ _))),
    visitMap_next (nextKey_comma _ _)
      ((readEntry_timestamp _ _).trans (readField_unseen _ _ _ (deserializeI64_writeI64 _ ends))),
    visitMap_done (nextKey_close _ _)]


theorem deserialize_toVec (m : TextMessage) (rest : List UInt8) :
    deserialize (m.toVec ++ rest) = .ok (m, rest) := by
  have shape : m.toVec ++ rest = byte '{' :: (writeStr "from" ++ byte ':' :: (writeStr m.from ++
      byte ',' :: (writeStr "content" ++ byte ':' :: (writeStr m.content ++ byte ',' ::
        (writeStr "timestamp" ++ byte ':' :: (writeI64 m.timestamp.val ++ byte '}' :: rest)))))) := by
    simp [TextMessage.toVec, writeObject, writeMember]
  rw [shape, deserialize, skipWhitespace_byte '{' (by decide)]
  simp only [show isChar (byte '{') '[' = false by decide, show isChar (byte '{') '{' = true by decide,
    Bool.false_eq_true, if_false, if_true]
  rw [visitMap_fields m ?enough]
  · simp only [TextFields.finish, endMap_close]
    rfl
  · simp [writeStr]
    omega

theorem fromStr_of_encode {s : String} {m : TextMessage} (same : Utf8.encode s.data = m.toVec) :
    TextMessage.fromStr s = .ok m := by
  rw [TextMessage.fromStr, same, ← List.append_nil m.toVec, deserialize_toVec]
  rfl

theorem getLast?_toVec (m : TextMessage) : m.toVec.getLast? = some (byte '}') := by
  simp [TextMessage.toVec, writeObject, List.getLast?_cons]

theorem isText_toVec (m : TextMessage) : IsText m.toVec :=
  isText_writeObject (by simp [isText_writeStr, isText_writeI64])

theorem newline_not_mem_toVec (m : TextMessage) : ∀ b ∈ m.toVec, b.toNat ≠ 0x0A :=
  newline_not_mem_writeObject (by
    simp only [List.mem_cons, List.mem_singleton, forall_eq_or_imp, forall_eq, List.not_mem_nil,
      false_implies, implies_true, and_true]
    exact ⟨newline_not_mem_writeStr _, newline_not_mem_writeStr _, newline_not_mem_writeI64 _⟩)

/-- An entry of a `TextMessage` object as any writer may send it: one of the three fields with
    its value, or another key with any JSON value. -/
inductive TextEntry where
  | «from» (s : String)
  | content (s : String)
  | timestamp (t : I64)
  | other (key : String) (value : Value)

def TextEntry.write : TextEntry → String × List UInt8
  | .from s => ("from", writeStr s)
  | .content s => ("content", writeStr s)
  | .timestamp t => ("timestamp", writeI64 t.val)
  | .other key value => (key, value.write)

def TextEntry.store (fields : TextFields) : TextEntry → Except ErrorCode TextFields
  | .from s => if fields.from.isSome then .error (.duplicateField "from") else .ok { fields with «from» := some s }
  | .content s =>
    if fields.content.isSome then .error (.duplicateField "content") else .ok { fields with content := some s }
  | .timestamp t =>
    if fields.timestamp.isSome then .error (.duplicateField "timestamp") else .ok { fields with timestamp := some t }
  | .other _ _ => .ok fields

end Parlance.Messaging
