import Parlance.Wire.Json.Number

namespace Parlance.Json

/-- serde's `Content`, as serde_json's `deserialize_any` builds it: the keys of a map come from
    `MapKey`, which reads strings only, and a string borrowed from the input and a copied one are
    one case. -/
inductive Content where
  | bool (b : Bool)
  | u64 (n : UInt64)
  | i64 (n : I64)
  | f64
  | string (s : String)
  | unit
  | seq (items : List Content)
  | map (entries : List (String × Content))

def Content.unexpected : Content → Unexpected
  | .bool b => .bool b
  | .u64 n => .unsigned n.toNat
  | .i64 n => .signed n.val
  | .f64 => .float
  | .string s => .str s
  | .unit => .unit
  | .seq _ => .seq
  | .map _ => .map

def ParserNumber.content : ParserNumber → Content
  | .u64 n => .u64 n
  | .i64 n => .i64 n
  | .f64 => .f64

def parseScalar (b : UInt8) (rest : List UInt8) : Read Content :=
  if isChar b 'n' then (parseIdent "ull".data rest).map (.unit, ·)
  else if isChar b 't' then (parseIdent "rue".data rest).map (.bool true, ·)
  else if isChar b 'f' then (parseIdent "alse".data rest).map (.bool false, ·)
  else if isChar b '-' then (parseInteger false rest).map fun (n, rest) => (n.content, rest)
  else if isDigit b then (parseInteger true (b :: rest)).map fun (n, rest) => (n.content, rest)
  else if isChar b '"' then (parseStr rest).map fun (s, rest) => (.string s, rest)
  else .error .expectedSomeValue

def parseItems (element : List UInt8 → Read Content) :
    (fuel : Nat) → (first : Bool) → List Content → List UInt8 → Read (List Content)
  | 0, _, _, _ => .error .eofWhileParsingList
  | fuel + 1, first, items, input =>
    match hasNextElement first input with
    | .error e => .error e
    | .ok (false, rest) => .ok (items, rest)
    | .ok (true, rest) =>
      match element rest with
      | .ok (item, rest) => parseItems element fuel false (items ++ [item]) rest
      | .error e => .error e

def parseEntries (value : List UInt8 → Read Content) :
    (fuel : Nat) → (first : Bool) → List (String × Content) → List UInt8 →
      Read (List (String × Content))
  | 0, _, _, _ => .error .eofWhileParsingObject
  | fuel + 1, first, entries, input =>
    match nextKey first input with
    | .error e => .error e
    | .ok (none, rest) => .ok (entries, rest)
    | .ok (some key, rest) =>
      match nextValue value rest with
      | .ok (v, rest) => parseEntries value fuel false (entries ++ [(key, v)]) rest
      | .error e => .error e

def parseCollection (element : List UInt8 → Read Content) (b : UInt8) (rest : List UInt8) :
    Read Content :=
  if isChar b '[' then
    match parseItems element (rest.length + 1) true [] rest with
    | .ok (items, rest) => (endSeq rest).map (.seq items, ·)
    | .error e => .error e
  else
    match parseEntries element (rest.length + 1) true [] rest with
    | .ok (entries, rest) => (endMap rest).map (.map entries, ·)
    | .error e => .error e

def parseValue (element : Option (List UInt8 → Read Content)) (input : List UInt8) : Read Content :=
  match skipWhitespace input with
  | [] => .error .eofWhileParsingValue
  | b :: rest =>
    if isChar b '[' ∨ isChar b '{' then
      match element with
      | some element => parseCollection element b rest
      | none => .error .recursionLimitExceeded
    else parseScalar b rest

/-- `deserialize_any` with `ContentVisitor` at serde_json's `remaining_depth` (128 at the
    start): an array or an object lowers it by one for its contents, and is refused when that
    would reach zero. -/
def parseContent : (depth : Nat) → List UInt8 → Read Content
  | inner + 2 => parseValue (some (parseContent (inner + 1)))
  | _ => parseValue none

def visitTaggedEntries {T : Type} (tagName : String) (tag : List UInt8 → Read T)
    (value : List UInt8 → Read Content) :
    (fuel : Nat) → (first : Bool) → Option T → List (String × Content) → List UInt8 →
      Read (Option T × List (String × Content))
  | 0, _, _, _, _ => .error .eofWhileParsingObject
  | fuel + 1, first, found, entries, input =>
    match nextKey first input with
    | .error e => .error e
    | .ok (none, rest) => .ok ((found, entries), rest)
    | .ok (some key, rest) =>
      if key = tagName then
        if found.isSome then .error (.duplicateField tagName)
        else
          match nextValue tag rest with
          | .ok (t, rest) => visitTaggedEntries tagName tag value fuel false (some t) entries rest
          | .error e => .error e
      else
        match nextValue value rest with
        | .ok (v, rest) => visitTaggedEntries tagName tag value fuel false found (entries ++ [(key, v)]) rest
        | .error e => .error e

def visitTagged {T : Type} (tagName : String) (tag : List UInt8 → Read T)
    (element : List UInt8 → Read Content) (b : UInt8) (rest : List UInt8) : Read (T × Content) :=
  if isChar b '[' then
    match nextElement true tag rest with
    | .error e => .error e
    | .ok (none, _) => .error (.missingField tagName)
    | .ok (some t, rest) =>
      match parseItems element (rest.length + 1) false [] rest with
      | .ok (items, rest) => (endSeq rest).map ((t, .seq items), ·)
      | .error e => .error e
  else
    match visitTaggedEntries tagName tag element (rest.length + 1) true none [] rest with
    | .ok ((some t, entries), rest) => (endMap rest).map ((t, .map entries), ·)
    | .ok ((none, _), _) => .error (.missingField tagName)
    | .error e => .error e

def deserializeTagged {T : Type} (tagName expecting : String) (tag : List UInt8 → Read T)
    (depth : Nat) (input : List UInt8) : Read (T × Content) :=
  match skipWhitespace input with
  | [] => .error .eofWhileParsingValue
  | b :: rest =>
    if isChar b '[' ∨ isChar b '{' then
      match depth with
      | inner + 2 => visitTagged tagName tag (parseContent (inner + 1)) b rest
      | _ => .error .recursionLimitExceeded
    else .error (peekInvalidType expecting (b :: rest))

def Content.toStr : Content → Except ErrorCode String
  | .string s => .ok s
  | c => .error (.invalidType c.unexpected "a string")

def Content.toU16 : Content → Except ErrorCode UInt16
  | .u64 n =>
    if n.toNat < 2 ^ 16 then .ok (UInt16.ofNat n.toNat)
    else .error (.invalidValue (.unsigned n.toNat) "u16")
  | .i64 n =>
    if 0 ≤ n.val ∧ n.val < 2 ^ 16 then .ok (UInt16.ofNat n.val.toNat)
    else .error (.invalidValue (.signed n.val) "u16")
  | c => .error (.invalidType c.unexpected "u16")

def expectedInSeq (count : Nat) : String :=
  if count = 1 then "1 element in sequence" else toString count ++ " elements in sequence"

theorem parseValue_scalar (element : Option (List UInt8 → Read Content)) {b : UInt8}
    (visible : isWhitespace b = false) (scalar : isChar b '[' = false ∧ isChar b '{' = false)
    (rest : List UInt8) : parseValue element (b :: rest) = parseScalar b rest := by
  rw [parseValue, skipWhitespace_cons rest visible]
  simp only [scalar, Bool.false_eq_true, or_self, if_false]

theorem parseContent_scalar (depth : Nat) {b : UInt8} (visible : isWhitespace b = false)
    (scalar : isChar b '[' = false ∧ isChar b '{' = false) (rest : List UInt8) :
    parseContent depth (b :: rest) = parseScalar b rest := by
  match depth with
  | _ + 2 => exact parseValue_scalar _ visible scalar rest
  | 0 | 1 => exact parseValue_scalar none visible scalar rest

theorem parseScalar_quote (rest : List UInt8) :
    parseScalar (byte '"') rest = (parseStr rest).map fun (s, rest) => (.string s, rest) := rfl

theorem parseScalar_digit {b : UInt8} (digit : isDigit b = true) (rest : List UInt8) :
    parseScalar b rest = (parseInteger true (b :: rest)).map fun (n, rest) => (n.content, rest) := by
  simp only [parseScalar, isChar_of_isDigit digit (c := 'n') (by decide),
    isChar_of_isDigit digit (c := 't') (by decide), isChar_of_isDigit digit (c := 'f') (by decide),
    isChar_of_isDigit digit (c := '-') (by decide), digit, Bool.false_eq_true, if_false, if_true]

theorem parseContent_writeStr (depth : Nat) (s : String) (rest : List UInt8) :
    parseContent depth (writeStr s ++ rest) = .ok (.string s, rest) := by
  rw [writeStr, List.cons_append, List.append_assoc, parseContent_scalar depth (by decide) (by decide),
    parseScalar_quote, List.singleton_append, parseStr_escape]
  rfl

theorem parseContent_writeU64 (depth : Nat) {n : Nat} (small : n < 2 ^ 64) {rest : List UInt8} (stop : EndsNumber rest) :
    parseContent depth (writeU64 n ++ rest) = .ok ((classify true (UInt64.ofNat n)).content, rest) := by
  obtain ⟨b, digits, shape⟩ := List.exists_cons_of_ne_nil (writeU64_ne_nil n)
  have digit := isDigit_of_mem_writeU64 n b (shape ▸ List.mem_cons_self b digits)
  rw [shape, List.cons_append, parseContent_scalar depth (isWhitespace_of_isDigit digit)
      ⟨isChar_of_isDigit digit (by decide), isChar_of_isDigit digit (by decide)⟩,
    parseScalar_digit digit, ← List.cons_append, ← shape, parseInteger_writeU64 true small stop]
  rfl

theorem toU16_classify (port : UInt16) : (classify true (UInt64.ofNat port.toNat)).content.toU16 = .ok port := by
  have small : port.toNat < 2 ^ 16 := port.toNat_lt_size
  have same : (UInt64.ofNat port.toNat).toNat = port.toNat :=
    UInt64.toNat_ofNat_of_lt (by simp only [UInt64.size]; omega)
  show (if (UInt64.ofNat port.toNat).toNat < 2 ^ 16 then (.ok (UInt16.ofNat (UInt64.ofNat port.toNat).toNat) : Except ErrorCode UInt16)
    else .error (.invalidValue (.unsigned (UInt64.ofNat port.toNat).toNat) "u16")) = .ok port
  rw [same, if_pos small]
  exact congrArg Except.ok (UInt16.toNat.inj (UInt16.toNat_ofNat_of_lt small))

theorem deserializeTagged_object {T : Type} (tagName expecting : String) (tag : List UInt8 → Read T)
    {depth : Nat} (deep : 2 ≤ depth) (rest : List UInt8) :
    deserializeTagged tagName expecting tag depth (byte '{' :: rest) =
      match visitTaggedEntries tagName tag (parseContent (depth - 1)) (rest.length + 1) true none [] rest with
      | .ok ((some t, entries), rest) => (endMap rest).map ((t, .map entries), ·)
      | .ok ((none, _), _) => .error (.missingField tagName)
      | .error e => .error e := by
  obtain ⟨inner, rfl⟩ := Nat.exists_eq_add_of_le' deep
  rw [deserializeTagged, skipWhitespace_byte '{' (by decide)]
  rfl

theorem parseContent_object {depth : Nat} (deep : 2 ≤ depth) (rest : List UInt8) :
    parseContent depth (byte '{' :: rest) =
      match parseEntries (parseContent (depth - 1)) (rest.length + 1) true [] rest with
      | .ok (entries, rest) => (endMap rest).map (.map entries, ·)
      | .error e => .error e := by
  obtain ⟨inner, rfl⟩ := Nat.exists_eq_add_of_le' deep
  rw [parseContent, parseValue, skipWhitespace_byte '{' (by decide)]
  rfl

theorem parseEntries_next {value : List UInt8 → Read Content} {fuel : Nat} {first : Bool}
    {entries : List (String × Content)} {input after rest : List UInt8} {key : String} {v : Content}
    (found : nextKey first input = .ok (some key, after)) (read : nextValue value after = .ok (v, rest)) :
    parseEntries value (fuel + 1) first entries input = parseEntries value fuel false (entries ++ [(key, v)]) rest := by
  rw [parseEntries, found]
  simp only [read]

theorem parseEntries_done {value : List UInt8 → Read Content} {fuel : Nat} {first : Bool}
    {entries : List (String × Content)} {input rest : List UInt8}
    (found : nextKey first input = .ok (none, rest)) :
    parseEntries value (fuel + 1) first entries input = .ok (entries, rest) := by
  rw [parseEntries, found]

section

variable {T : Type} {tagName : String} {tag : List UInt8 → Read T} {value : List UInt8 → Read Content}
  {fuel : Nat} {first : Bool} {entries : List (String × Content)} {input after rest : List UInt8}

theorem visitTaggedEntries_tag {t : T} (found : nextKey first input = .ok (some tagName, after))
    (read : nextValue tag after = .ok (t, rest)) :
    visitTaggedEntries tagName tag value (fuel + 1) first none entries input =
      visitTaggedEntries tagName tag value fuel false (some t) entries rest := by
  rw [visitTaggedEntries, found]
  simp only [read, if_true, Option.isSome_none, Bool.false_eq_true, if_false]

theorem visitTaggedEntries_other {key : String} {v : Content} {seen : Option T}
    (found : nextKey first input = .ok (some key, after)) (other : key ≠ tagName)
    (read : nextValue value after = .ok (v, rest)) :
    visitTaggedEntries tagName tag value (fuel + 1) first seen entries input =
      visitTaggedEntries tagName tag value fuel false seen (entries ++ [(key, v)]) rest := by
  rw [visitTaggedEntries, found]
  simp only [read, other, if_false]

theorem visitTaggedEntries_done {seen : Option T} (found : nextKey first input = .ok (none, rest)) :
    visitTaggedEntries tagName tag value (fuel + 1) first seen entries input = .ok ((seen, entries), rest) := by
  rw [visitTaggedEntries, found]

end

end Parlance.Json
