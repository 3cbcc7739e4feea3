import Parlance.Wire.Json.Write

namespace Parlance.Json

@[ext] structure I64 where
  val : Int
  bounded : -2 ^ 63 ≤ val ∧ val < 2 ^ 63
deriving DecidableEq, Repr

inductive Unexpected where
  | bool (b : Bool)
  | unsigned (n : Nat)
  | signed (n : Int)
  | float
  | str (s : String)
  | unit
  | seq
  | map
deriving DecidableEq, Repr

/-- serde_json's `ErrorCode` without the line and column, and serde's data errors by kind
    rather than as their formatted text. -/
inductive ErrorCode where
  | eofWhileParsingList
  | eofWhileParsingObject
  | eofWhileParsingString
  | eofWhileParsingValue
  | expectedColon
  | expectedListCommaOrEnd
  | expectedObjectCommaOrEnd
  | expectedSomeIdent
  | expectedSomeValue
  | invalidEscape
  | invalidNumber
  | numberOutOfRange
  | invalidUnicodeCodePoint
  | controlCharacterWhileParsingString
  | keyMustBeAString
  | loneLeadingSurrogateInHexEscape
  | trailingComma
  | trailingCharacters
  | unexpectedEndOfHexEscape
  | recursionLimitExceeded
  | invalidType (unexpected : Unexpected) (expected : String)
  | invalidValue (unexpected : Unexpected) (expected : String)
  | invalidLength (len : Nat) (expected : String)
  | unknownVariant (variant : String) (expected : List String)
  | missingField (field : String)
  | duplicateField (field : String)
deriving DecidableEq, Repr

abbrev Read (α : Type) := Except ErrorCode (α × List UInt8)

def isChar (b : UInt8) (c : Char) : Bool := b.toNat = c.toNat

def isDigit (b : UInt8) : Bool := 0x30 ≤ b.toNat ∧ b.toNat ≤ 0x39

def isWhitespace (b : UInt8) : Bool := isChar b ' ' ∨ isChar b '\n' ∨ isChar b '\t' ∨ isChar b '\r'

def skipWhitespace (input : List UInt8) : List UInt8 := input.dropWhile isWhitespace

def parseIdent : List Char → List UInt8 → Except ErrorCode (List UInt8)
  | [], input => .ok input
  | _ :: _, [] => .error .eofWhileParsingValue
  | c :: cs, b :: rest => if isChar b c then parseIdent cs rest else .error .expectedSomeIdent

def hexVal (b : UInt8) : Option Nat :=
  if 0x30 ≤ b.toNat ∧ b.toNat ≤ 0x39 then some (b.toNat - 0x30)
  else if 0x41 ≤ b.toNat ∧ b.toNat ≤ 0x46 then some (b.toNat - 0x37)
  else if 0x61 ≤ b.toNat ∧ b.toNat ≤ 0x66 then some (b.toNat - 0x57)
  else none

def decodeHexEscape : List UInt8 → Except ErrorCode (Nat × List UInt8)
  | a :: b :: c :: d :: rest =>
    match hexVal a, hexVal b, hexVal c, hexVal d with
    | some a, some b, some c, some d => .ok (a * 0x1000 + b * 0x100 + c * 0x10 + d, rest)
    | _, _, _, _ => .error .invalidEscape
  | _ => .error .eofWhileParsingString

def codepoint (n : Nat) : List UInt8 := Utf8.encodeChar (Char.ofNat n)

def parseUnicodeEscape (input : List UInt8) : Except ErrorCode (List UInt8 × List UInt8) :=
  match decodeHexEscape input with
  | .error e => .error e
  | .ok (n, rest) =>
    if 0xDC00 ≤ n ∧ n ≤ 0xDFFF then .error .loneLeadingSurrogateInHexEscape
    else if n < 0xD800 ∨ 0xDBFF < n then .ok (codepoint n, rest)
    else match rest with
      | [] => .error .eofWhileParsingString
      | b1 :: rest =>
        if !isChar b1 '\\' then .error .unexpectedEndOfHexEscape
        else match rest with
          | [] => .error .eofWhileParsingString
          | b2 :: rest =>
            if !isChar b2 'u' then .error .unexpectedEndOfHexEscape
            else match decodeHexEscape rest with
              | .error e => .error e
              | .ok (n2, rest) =>
                if n2 < 0xDC00 ∨ 0xDFFF < n2 then .error .loneLeadingSurrogateInHexEscape
                else .ok (codepoint ((n - 0xD800) * 0x400 + (n2 - 0xDC00) + 0x10000), rest)

def simpleEscape (b : UInt8) : Option UInt8 :=
  if isChar b '"' then some (byte '"')
  else if isChar b '\\' then some (byte '\\')
  else if isChar b '/' then some (byte '/')
  else if isChar b 'b' then some 0x08
  else if isChar b 'f' then some 0x0C
  else if isChar b 'n' then some 0x0A
  else if isChar b 'r' then some 0x0D
  else if isChar b 't' then some 0x09
  else none

def parseEscape : List UInt8 → Except ErrorCode (List UInt8 × List UInt8)
  | [] => .error .eofWhileParsingString
  | e :: rest =>
    match simpleEscape e with
    | some out => .ok ([out], rest)
    | none => if isChar e 'u' then parseUnicodeEscape rest else .error .invalidEscape

def prepend (pre : List UInt8) (r : Read (List UInt8)) : Read (List UInt8) :=
  r.map fun (s, rest) => (pre ++ s, rest)

def parseStrBytes : (fuel : Nat) → List UInt8 → Read (List UInt8)
  | 0, _ => .error .eofWhileParsingString
  | _ + 1, [] => .error .eofWhileParsingString
  | fuel + 1, b :: rest =>
    if isChar b '"' then .ok ([], rest)
    else if isChar b '\\' then
      match parseEscape rest with
      | .ok (out, rest) => prepend out (parseStrBytes fuel rest)
      | .error e => .error e
    else if b.toNat < 0x20 then .error .controlCharacterWhileParsingString
    else prepend [b] (parseStrBytes fuel rest)

def parseStr (input : List UInt8) : Read String :=
  match parseStrBytes (input.length + 1) input with
  | .ok (bytes, rest) =>
    match Utf8.decode bytes with
    | some cs => .ok (⟨cs⟩, rest)
    | none => .error .invalidUnicodeCodePoint
  | .error e => .error e

def ignoreEscape : List UInt8 → Except ErrorCode (List UInt8)
  | [] => .error .eofWhileParsingString
  | e :: rest =>
    if (simpleEscape e).isSome then .ok rest
    else if isChar e 'u' then (decodeHexEscape rest).map Prod.snd
    else .error .invalidEscape

def ignoreStr : (fuel : Nat) → List UInt8 → Except ErrorCode (List UInt8)
  | 0, _ => .error .eofWhileParsingString
  | _ + 1, [] => .error .eofWhileParsingString
  | fuel + 1, b :: rest =>
    if isChar b '"' then .ok rest
    else if isChar b '\\' then
      match ignoreEscape rest with
      | .ok rest => ignoreStr fuel rest
      | .error e => .error e
    else if b.toNat < 0x20 then .error .controlCharacterWhileParsingString
    else ignoreStr fuel rest

/-- serde_json's `ParserNumber`; a float's value is not kept. -/
inductive ParserNumber where
  | u64 (n : UInt64)
  | i64 (n : I64)
  | f64
deriving DecidableEq, Repr

def ParserNumber.unexpected : ParserNumber → Unexpected
  | .u64 n => .unsigned n.toNat
  | .i64 n => .signed n.val
  | .f64 => .float

def digitValue (b : UInt8) : Nat := b.toNat - 0x30

/-- `n as f64` for `n` below 2^1024: the nearest natural with 53 significant bits, ties to even. -/
def roundF64 (n : Nat) : Nat :=
  let shift := n.log2 - 52
  let q := n / 2 ^ shift
  let r := n % 2 ^ shift
  (if 2 * r > 2 ^ shift ∨ (2 * r = 2 ^ shift ∧ q % 2 = 1) then q + 1 else q) * 2 ^ shift

/-- `f64_from_parts` without `float_roundtrip`, up to the float's value: a product with `POW10`'s
    entry that rounds to infinity, or an exponent past the table, is `NumberOutOfRange`. -/
def f64FromParts (significand : Nat) (exponent : Int) : Except ErrorCode ParserNumber :=
  if exponent < 0 then .ok .f64
  else if exponent ≤ 308 then
    if roundF64 significand * roundF64 (10 ^ exponent.toNat) < 2 ^ 1024 - 2 ^ 970 then .ok .f64
    else .error .numberOutOfRange
  else if significand = 0 then .ok .f64
  else .error .numberOutOfRange

def classify (positive : Bool) (significand : UInt64) : ParserNumber :=
  if positive then .u64 significand
  else if bound : 0 < significand.toNat ∧ significand.toNat ≤ 2 ^ 63 then .i64 ⟨-significand.toNat, by omega⟩
  else .f64

def saturateI32 (x : Int) : Int := max (-2 ^ 31) (min (2 ^ 31 - 1) x)

def parseExponentOverflow (zeroSignificand positiveExp : Bool) (rest : List UInt8) : Read ParserNumber :=
  if !zeroSignificand && positiveExp then .error .numberOutOfRange else .ok (.f64, rest.dropWhile isDigit)

def exponentDigits (significand : Nat) (startingExp : Int) (positiveExp : Bool) (exp : Nat)
    (input : List UInt8) : Read ParserNumber :=
  let done := (f64FromParts significand
    (saturateI32 (if positiveExp then startingExp + exp else startingExp - exp))).map (·, input)
  match input with
  | b :: rest =>
    if isDigit b then
      if exp * 10 + digitValue b < 2 ^ 31 then
        exponentDigits significand startingExp positiveExp (exp * 10 + digitValue b) rest
      else parseExponentOverflow (significand == 0) positiveExp rest
    else done
  | [] => done

def parseExponent (significand : Nat) (startingExp : Int) (input : List UInt8) : Read ParserNumber :=
  let signed : Bool × List UInt8 := match input with
    | b :: rest => if isChar b '+' then (true, rest) else if isChar b '-' then (false, rest) else (true, b :: rest)
    | [] => (true, [])
  match signed.2 with
  | [] => .error .eofWhileParsingValue
  | b :: rest =>
    if isDigit b then exponentDigits significand startingExp signed.1 (digitValue b) rest
    else .error .invalidNumber

def exponentOrEnd (significand : Nat) (exponent : Int) (input : List UInt8) : Read ParserNumber :=
  let done := (f64FromParts significand exponent).map (·, input)
  match input with
  | b :: rest => if isChar b 'e' ∨ isChar b 'E' then parseExponent significand exponent rest else done
  | [] => done

def parseDecimal (significand : Nat) (exponent : Int) (taken : Bool) (input : List UInt8) :
    Read ParserNumber :=
  match input with
  | b :: rest =>
    if isDigit b then
      if significand * 10 + digitValue b < 2 ^ 64 then
        parseDecimal (significand * 10 + digitValue b) (exponent - 1) true rest
      else exponentOrEnd significand exponent (rest.dropWhile isDigit)
    else if taken then exponentOrEnd significand exponent (b :: rest)
    else .error .invalidNumber
  | [] => if taken then exponentOrEnd significand exponent [] else .error .eofWhileParsingValue

def parseLongInteger (significand exponent : Nat) (input : List UInt8) : Read ParserNumber :=
  match input with
  | b :: rest =>
    if isDigit b then parseLongInteger significand (exponent + 1) rest
    else if isChar b '.' then parseDecimal significand exponent false rest
    else exponentOrEnd significand exponent (b :: rest)
  | [] => exponentOrEnd significand exponent []

def parseNumber (positive : Bool) (significand : Nat) (input : List UInt8) : Read ParserNumber :=
  match input with
  | b :: rest =>
    if isChar b '.' then parseDecimal significand 0 false rest
    else if isChar b 'e' ∨ isChar b 'E' then parseExponent significand 0 rest
    else .ok (classify positive (UInt64.ofNat significand), b :: rest)
  | [] => .ok (classify positive (UInt64.ofNat significand), [])

def integerDigits (positive : Bool) (significand : Nat) (input : List UInt8) : Read ParserNumber :=
  match input with
  | b :: rest =>
    if isDigit b then
      if significand * 10 + digitValue b < 2 ^ 64 then integerDigits positive (significand * 10 + digitValue b) rest
      else parseLongInteger significand 0 (b :: rest)
    else parseNumber positive significand (b :: rest)
  | [] => parseNumber positive significand []

def parseInteger (positive : Bool) (input : List UInt8) : Read ParserNumber :=
  match input with
  | [] => .error .eofWhileParsingValue
  | b :: rest =>
    if isChar b '0' then
      if rest.head?.any isDigit then .error .invalidNumber else parseNumber positive 0 rest
    else if isDigit b then integerDigits positive (digitValue b) rest
    else .error .invalidNumber

def ignoreExponent (input : List UInt8) : Except ErrorCode (List UInt8) :=
  let unsigned := match input with
    | b :: rest => if isChar b '+' ∨ isChar b '-' then rest else b :: rest
    | [] => []
  match unsigned with
  | b :: rest => if isDigit b then .ok (rest.dropWhile isDigit) else .error .invalidNumber
  | [] => .error .invalidNumber

def ignoreExponentOrEnd (input : List UInt8) : Except ErrorCode (List UInt8) :=
  match input with
  | b :: rest => if isChar b 'e' ∨ isChar b 'E' then ignoreExponent rest else .ok (b :: rest)
  | [] => .ok []

def ignoreDecimal (input : List UInt8) : Except ErrorCode (List UInt8) :=
  match input with
  | b :: rest => if isDigit b then ignoreExponentOrEnd (rest.dropWhile isDigit) else .error .invalidNumber
  | [] => .error .invalidNumber

def ignoreFraction (input : List UInt8) : Except ErrorCode (List UInt8) :=
  match input with
  | b :: rest => if isChar b '.' then ignoreDecimal rest else ignoreExponentOrEnd (b :: rest)
  | [] => .ok []

def ignoreInteger (input : List UInt8) : Except ErrorCode (List UInt8) :=
  match input with
  | b :: rest =>
    if isChar b '0' then if rest.head?.any isDigit then .error .invalidNumber else ignoreFraction rest
    else if isDigit b then ignoreFraction (rest.dropWhile isDigit)
    else .error .invalidNumber
  | [] => .error .invalidNumber

def peekInvalidType (expected : String) : List UInt8 → ErrorCode
  | [] => .expectedSomeValue
  | b :: rest =>
    let literal (ident : List Char) (value : Unexpected) : ErrorCode :=
      match parseIdent ident rest with
      | .ok _ => .invalidType value expected
      | .error e => e
    let number (r : Read ParserNumber) : ErrorCode :=
      match r with
      | .ok (n, _) => .invalidType n.unexpected expected
      | .error e => e
    if isChar b 'n' then literal "ull".data .unit
    else if isChar b 't' then literal "rue".data (.bool true)
    else if isChar b 'f' then literal "alse".data (.bool false)
    else if isChar b '-' then number (parseInteger false rest)
    else if isDigit b then number (parseInteger true (b :: rest))
    else if isChar b '"' then
      match parseStr rest with
      | .ok (s, _) => .invalidType (.str s) expected
      | .error e => e
    else if isChar b '[' then .invalidType .seq expected
    else if isChar b '{' then .invalidType .map expected
    else .expectedSomeValue

def deserializeString (input : List UInt8) : Read String :=
  match skipWhitespace input with
  | [] => .error .eofWhileParsingValue
  | b :: rest => if isChar b '"' then parseStr rest else .error (peekInvalidType "a string" (b :: rest))

def visitI64 : ParserNumber → Except ErrorCode I64
  | .u64 n => if bound : n.toNat < 2 ^ 63 then .ok ⟨n.toNat, by omega⟩
    else .error (.invalidValue (.unsigned n.toNat) "i64")
  | .i64 n => .ok n
  | .f64 => .error (.invalidType .float "i64")

def deserializeI64 (input : List UInt8) : Read I64 :=
  let visit (r : Read ParserNumber) : Read I64 :=
    match r with
    | .ok (n, rest) => (visitI64 n).map (·, rest)
    | .error e => .error e
  match skipWhitespace input with
  | [] => .error .eofWhileParsingValue
  | b :: rest =>
    if isChar b '-' then visit (parseInteger false rest)
    else if isDigit b then visit (parseInteger true (b :: rest))
    else .error (peekInvalidType "i64" (b :: rest))

def hasNextElement (first : Bool) (input : List UInt8) : Read Bool :=
  match skipWhitespace input with
  | [] => .error .eofWhileParsingList
  | b :: rest =>
    if isChar b ']' then .ok (false, b :: rest)
    else if isChar b ',' ∧ !first then
      match skipWhitespace rest with
      | [] => .error .eofWhileParsingValue
      | c :: rest => if isChar c ']' then .error .trailingComma else .ok (true, c :: rest)
    else if first then .ok (true, b :: rest)
    else .error .expectedListCommaOrEnd

def hasNextKey (first : Bool) (input : List UInt8) : Read Bool :=
  let key : List UInt8 → Read Bool
    | [] => .error .eofWhileParsingValue
    | b :: rest =>
      if isChar b '"' then .ok (true, rest)
      else if isChar b '}' then .error .trailingComma
      else .error .keyMustBeAString
  match skipWhitespace input with
  | [] => .error .eofWhileParsingObject
  | b :: rest =>
    if isChar b '}' then .ok (false, b :: rest)
    else if isChar b ',' ∧ !first then key (skipWhitespace rest)
    else if first then key (b :: rest)
    else .error .expectedObjectCommaOrEnd

def nextKey (first : Bool) (input : List UInt8) : Read (Option String) :=
  match hasNextKey first input with
  | .ok (true, rest) => (parseStr rest).map fun (key, rest) => (some key, rest)
  | .ok (false, rest) => .ok (none, rest)
  | .error e => .error e

def parseObjectColon (input : List UInt8) : Except ErrorCode (List UInt8) :=
  match skipWhitespace input with
  | [] => .error .eofWhileParsingObject
  | b :: rest => if isChar b ':' then .ok rest else .error .expectedColon

def nextValue {α : Type} (read : List UInt8 → Read α) (input : List UInt8) : Read α :=
  match parseObjectColon input with
  | .ok rest => read rest
  | .error e => .error e

def nextElement {α : Type} (first : Bool) (read : List UInt8 → Read α) (input : List UInt8) :
    Read (Option α) :=
  match hasNextElement first input with
  | .ok (false, rest) => .ok (none, rest)
  | .ok (true, rest) => (read rest).map fun (v, rest) => (some v, rest)
  | .error e => .error e

def endSeq (input : List UInt8) : Except ErrorCode (List UInt8) :=
  match skipWhitespace input with
  | [] => .error .eofWhileParsingList
  | b :: rest =>
    if isChar b ']' then .ok rest
    else if isChar b ',' then
      match skipWhitespace rest with
      | c :: _ => if isChar c ']' then .error .trailingComma else .error .trailingCharacters
      | [] => .error .trailingCharacters
    else .error .trailingCharacters

def endMap (input : List UInt8) : Except ErrorCode (List UInt8) :=
  match skipWhitespace input with
  | [] => .error .eofWhileParsingObject
  | b :: rest =>
    if isChar b '}' then .ok rest
    else if isChar b ',' then .error .trailingComma
    else .error .trailingCharacters

def endOfInput (input : List UInt8) : Except ErrorCode Unit :=
  match skipWhitespace input with
  | [] => .ok ()
  | _ :: _ => .error .trailingCharacters

def ignoreScalar (b : UInt8) (rest : List UInt8) : Except ErrorCode (List UInt8) :=
  if isChar b 'n' then parseIdent "ull".data rest
  else if isChar b 't' then parseIdent "rue".data rest
  else if isChar b 'f' then parseIdent "alse".data rest
  else if isChar b '-' then ignoreInteger rest
  else if isDigit b then ignoreInteger (b :: rest)
  else if isChar b '"' then ignoreStr (rest.length + 1) rest
  else .error .expectedSomeValue

def closeFrames : (fuel : Nat) → (acceptComma : Bool) → (frame : UInt8) → (scratch : List UInt8) →
    List UInt8 → Read (Option (UInt8 × List UInt8))
  | 0, _, _, _, _ => .error .eofWhileParsingValue
  | fuel + 1, acceptComma, frame, scratch, input =>
    match skipWhitespace input with
    | [] => .error (if isChar frame '[' then .eofWhileParsingList else .eofWhileParsingObject)
    | b :: rest =>
      if isChar b ',' ∧ acceptComma then .ok (some (frame, scratch), rest)
      else if (isChar b ']' ∧ isChar frame '[') ∨ (isChar b '}' ∧ isChar frame '{') then
        match scratch with
        | [] => .ok (none, rest)
        | frame :: scratch => closeFrames fuel true frame scratch rest
      else if acceptComma then
        .error (if isChar frame '[' then .expectedListCommaOrEnd else .expectedObjectCommaOrEnd)
      else .ok (some (frame, scratch), b :: rest)

def ignoreKey (input : List UInt8) : Except ErrorCode (List UInt8) :=
  match skipWhitespace input with
  | [] => .error .eofWhileParsingValue
  | b :: rest =>
    if isChar b '"' then
      match ignoreStr (rest.length + 1) rest with
      | .ok rest => parseObjectColon rest
      | .error e => .error e
    else .error .keyMustBeAString

/-- `Deserializer::ignore_value`: skips one value of any depth without building it, keeping the
    open brackets as a stack, `scratch` with the innermost in `enclosing`. Each round reads a
    byte, so fuel one more than the input's length is enough. -/
def ignoreValue : (fuel : Nat) → (scratch : List UInt8) → (enclosing : Option UInt8) →
    List UInt8 → Except ErrorCode (List UInt8)
  | 0, _, _, _ => .error .eofWhileParsingValue
  | fuel + 1, scratch, enclosing, input =>
    match skipWhitespace input with
    | [] => .error .eofWhileParsingValue
    | b :: rest =>
      let next : Read (Option (Bool × UInt8 × List UInt8)) :=
        if isChar b '[' ∨ isChar b '{' then .ok (some (false, b, enclosing.toList ++ scratch), rest)
        else match ignoreScalar b rest with
          | .error e => .error e
          | .ok rest =>
            match enclosing, scratch with
            | some frame, scratch => .ok (some (true, frame, scratch), rest)
            | none, frame :: scratch => .ok (some (true, frame, scratch), rest)
            | none, [] => .ok (none, rest)
      match next with
      | .error e => .error e
      | .ok (none, rest) => .ok rest
      | .ok (some (acceptComma, frame, scratch), rest) =>
        match closeFrames (rest.length + 1) acceptComma frame scratch rest with
        | .error e => .error e
        | .ok (none, rest) => .ok rest
        | .ok (some (frame, scratch), rest) =>
          if isChar frame '{' then
            match ignoreKey rest with
            | .ok rest => ignoreValue fuel scratch (some frame) rest
            | .error e => .error e
          else ignoreValue fuel scratch (some frame) rest

def ignoreAny (input : List UInt8) : Except ErrorCode (List UInt8) :=
  ignoreValue (input.length + 1) [] none input

theorem codepoint_ascii {n : Nat} (ascii : n < 0x80) : codepoint n = [UInt8.ofNat n] := by
  have same : (Char.ofNat n).toNat = n := Utf8.toNat_ofNat_char (Or.inl (show n < 0xD800 by omega))
  simp [codepoint, Utf8.encodeChar, same, ascii]

theorem hexVal_hexDigit (k : Nat) (small : k < 16) : hexVal (hexDigit k) = some k := by
  rw [hexVal, toNat_hexDigit k small]
  split_ifs <;> first | omega | (congr 1; omega)

theorem skipWhitespace_cons {b : UInt8} (rest : List UInt8) (visible : isWhitespace b = false) :
    skipWhitespace (b :: rest) = b :: rest :=
  List.dropWhile_cons_of_neg (by simp [visible])

theorem skipWhitespace_byte (c : Char) (visible : isWhitespace (byte c) = false) (rest : List UInt8) :
    skipWhitespace (byte c :: rest) = byte c :: rest :=
  skipWhitespace_cons rest visible

theorem decodeHexEscape_control {b : UInt8} (control : b.toNat < 0x20) (rest : List UInt8) :
    decodeHexEscape (byte '0' :: byte '0' :: hexDigit (b.toNat / 16) :: hexDigit (b.toNat % 16) :: rest) =
      .ok (b.toNat, rest) := by
  rw [decodeHexEscape, hexVal_hexDigit _ (by omega), hexVal_hexDigit _ (by omega)]
  simp only [hexVal, toNat_byte]
  simp
  omega

theorem parseStrBytes_backslash (fuel : Nat) (rest : List UInt8) :
    parseStrBytes (fuel + 1) (byte '\\' :: rest) =
      match parseEscape rest with
      | .ok (out, rest) => prepend out (parseStrBytes fuel rest)
      | .error e => .error e := rfl

theorem parseStrBytes_simpleEscape {c : Char} {out : UInt8} (fuel : Nat) (rest : List UInt8)
    (found : simpleEscape (byte c) = some out) :
    parseStrBytes (fuel + 1) (byte '\\' :: byte c :: rest) = prepend [out] (parseStrBytes fuel rest) := by
  rw [parseStrBytes_backslash, parseEscape, found]

theorem parseStrBytes_raw {b : UInt8} (fuel : Nat) (rest : List UInt8) (plain : 0x20 ≤ b.toNat)
    (notQuote : b.toNat ≠ 0x22) (notBackslash : b.toNat ≠ 0x5C) :
    parseStrBytes (fuel + 1) (b :: rest) = prepend [b] (parseStrBytes fuel rest) := by
  rw [parseStrBytes]
  simp [isChar, notQuote, notBackslash]
  omega

theorem parseStrBytes_escapeByte (b : UInt8) (fuel : Nat) (input : List UInt8) :
    parseStrBytes (fuel + 1) (escapeByte b ++ input) = prepend [b] (parseStrBytes fuel input) := by
  have simple : ∀ {c : Char} {code : Nat}, simpleEscape (byte c) = some (UInt8.ofNat code) →
      b.toNat = code → parseStrBytes (fuel + 1) ([byte '\\', byte c] ++ input) =
        prepend [b] (parseStrBytes fuel input) := fun found same =>
    parseStrBytes_simpleEscape fuel input (found.trans (congrArg some (Utf8.ofNat_eq_of_toNat same)))
  unfold escapeByte
  by_cases quote : b.toNat = 0x22
  · rw [if_pos quote]
    exact simple rfl quote
  rw [if_neg quote]
  by_cases backslash : b.toNat = 0x5C
  · rw [if_pos backslash]
    exact simple rfl backslash
  rw [if_neg backslash]
  by_cases backspace : b.toNat = 0x08
  · rw [if_pos backspace]
    exact simple rfl backspace
  rw [if_neg backspace]
  by_cases formfeed : b.toNat = 0x0C
  · rw [if_pos formfeed]
    exact simple rfl formfeed
  rw [if_neg formfeed]
  by_cases newline : b.toNat = 0x0A
  · rw [if_pos newline]
    exact simple rfl newline
  rw [if_neg newline]
  by_cases carriage : b.toNat = 0x0D
  · rw [if_pos carriage]
    exact simple rfl carriage
  rw [if_neg carriage]
  by_cases tab : b.toNat = 0x09
  · rw [if_pos tab]
    exact simple rfl tab
  rw [if_neg tab]
  by_cases control : b.toNat < 0x20
  · have unicode : parseEscape (byte 'u' :: byte '0' :: byte '0' :: hexDigit (b.toNat / 16) ::
        hexDigit (b.toNat % 16) :: input) = .ok ([b], input) := by
      simp only [parseEscape, show simpleEscape (byte 'u') = none by decide,
        show isChar (byte 'u') 'u' = true by decide, if_true, parseUnicodeEscape,
        decodeHexEscape_control control, codepoint_ascii (show b.toNat < 0x80 by omega),
        Utf8.ofNat_eq_of_toNat rfl]
      simp only [show ¬ (0xDC00 ≤ b.toNat ∧ b.toNat ≤ 0xDFFF) by omega,
        show b.toNat < 0xD800 ∨ 0xDBFF < b.toNat by omega, if_false, if_true]
    rw [if_pos control]
    simp only [List.cons_append, List.nil_append]
    rw [parseStrBytes_backslash, unicode]
  rw [if_neg control]
  exact parseStrBytes_raw fuel input (by omega) quote backslash

theorem length_le_escape (bytes : List UInt8) : bytes.length ≤ (escape bytes).length := by
  induction bytes with
  | nil => rfl
  | cons b bytes ih =>
    have nonempty := length_escapeByte_pos b
    rw [escape_cons, List.length_append, List.length_cons]
    omega

theorem parseStrBytes_escape (bytes : List UInt8) (fuel : Nat) (enough : bytes.length < fuel)
    (rest : List UInt8) : parseStrBytes fuel (escape bytes ++ byte '"' :: rest) = .ok (bytes, rest) := by
  induction bytes generalizing fuel with
  | nil =>
    obtain ⟨fuel, rfl⟩ : ∃ f, fuel = f + 1 := ⟨fuel - 1, by simp at enough; omega⟩
    rfl
  | cons b bytes ih =>
    obtain ⟨fuel, rfl⟩ : ∃ f, fuel = f + 1 := ⟨fuel - 1, by simp at enough; omega⟩
    rw [escape_cons, List.append_assoc, parseStrBytes_escapeByte,
      ih fuel (by simp at enough; omega)]
    rfl

theorem parseStr_escape (s : String) (rest : List UInt8) :
    parseStr (escape (Utf8.encode s.data) ++ byte '"' :: rest) = .ok (s, rest) := by
  have enough := length_le_escape (Utf8.encode s.data)
  rw [parseStr, parseStrBytes_escape _ _ (by simp; omega)]
  simp only [Utf8.decode_encode]

theorem deserializeString_writeStr (s : String) (rest : List UInt8) :
    deserializeString (writeStr s ++ rest) = .ok (s, rest) := by
  rw [writeStr, List.cons_append, List.append_assoc, deserializeString, skipWhitespace_cons _ (by decide)]
  exact parseStr_escape s rest

/-- The input after a number ends it: no digit, point or exponent follows. -/
def EndsNumber (rest : List UInt8) : Prop :=
  ∀ b ∈ rest.head?, isDigit b = false ∧ isChar b '.' = false ∧ isChar b 'e' = false ∧ isChar b 'E' = false

theorem nextKey_writeStr (k : String) (rest : List UInt8) :
    nextKey true (writeStr k ++ rest) = .ok (some k, rest) := by
  rw [writeStr, List.cons_append, nextKey, hasNextKey, skipWhitespace_byte '"' (by decide)]
  simp only [show isChar (byte '"') '}' = false by decide, show isChar (byte '"') '"' = true by decide,
    show isChar (byte '"') ',' = false by decide, Bool.false_eq_true, if_false, false_and, if_true,
    List.append_assoc, List.cons_append, List.nil_append]
  rw [parseStr_escape]
  rfl

theorem nextKey_comma (k : String) (rest : List UInt8) :
    nextKey false (byte ',' :: (writeStr k ++ rest)) = .ok (some k, rest) := by
  rw [nextKey, hasNextKey, skipWhitespace_byte ',' (by decide)]
  simp only [show isChar (byte ',') '}' = false by decide, show isChar (byte ',') ',' = true by decide,
    Bool.false_eq_true, if_false, Bool.not_false, and_self, if_true]
  rw [writeStr, List.cons_append, skipWhitespace_byte '"' (by decide)]
  simp only [show isChar (byte '"') '"' = true by decide, if_true, List.append_assoc, List.cons_append,
    List.nil_append]
  rw [parseStr_escape]
  rfl

theorem nextKey_close (first : Bool) (rest : List UInt8) :
    nextKey first (byte '}' :: rest) = .ok (none, byte '}' :: rest) := by
  rw [nextKey, hasNextKey, skipWhitespace_byte '}' (by decide)]
  simp only [show isChar (byte '}') '}' = true by decide, if_true]

theorem parseObjectColon_colon (rest : List UInt8) : parseObjectColon (byte ':' :: rest) = .ok rest := by
  rw [parseObjectColon, skipWhitespace_byte ':' (by decide)]
  rfl

theorem nextValue_colon {α : Type} (read : List UInt8 → Read α) (input : List UInt8) :
    nextValue read (byte ':' :: input) = read input := by
  rw [nextValue, parseObjectColon_colon]

theorem endMap_close (rest : List UInt8) : endMap (byte '}' :: rest) = .ok rest := by
  rw [endMap, skipWhitespace_byte '}' (by decide)]
  rfl

theorem endsNumber_byte {c : Char} (ends : isDigit (byte c) = false ∧ isChar (byte c) '.' = false ∧
    isChar (byte c) 'e' = false ∧ isChar (byte c) 'E' = false) (rest : List UInt8) :
    EndsNumber (byte c :: rest) := by
  intro b member
  obtain rfl : byte c = b := Option.some.inj member
  exact ends

end Parlance.Json
