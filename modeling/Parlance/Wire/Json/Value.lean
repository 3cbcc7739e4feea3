import Parlance.Wire.Json.Skip

namespace Parlance.Json

/-- A JSON value as a writer sends it with no whitespace, strings escaped as serde_json does. -/
inductive Value where
  | null
  | bool (b : Bool)
  | number (x : JsonNumber)
  | string (s : String)
  | array (items : List Value)
  | object (entries : List (String × Value))

mutual
def Value.write : Value → List UInt8
  | .null => [byte 'n', byte 'u', byte 'l', byte 'l']
  | .bool true => [byte 't', byte 'r', byte 'u', byte 'e']
  | .bool false => [byte 'f', byte 'a', byte 'l', byte 's', byte 'e']
  | .number x => x.write
  | .string s => writeStr s
  | .array [] => [byte '[', byte ']']
  | .array (item :: items) => byte '[' :: (item.write ++ Value.writeItems items)
  | .object [] => [byte '{', byte '}']
  | .object ((key, value) :: entries) =>
    byte '{' :: (writeStr key ++ byte ':' :: (value.write ++ Value.writeEntries entries))

def Value.writeItems : List Value → List UInt8
  | [] => [byte ']']
  | item :: items => byte ',' :: (item.write ++ Value.writeItems items)

def Value.writeEntries : List (String × Value) → List UInt8
  | [] => [byte '}']
  | (key, value) :: entries => byte ',' :: (writeStr key ++ byte ':' :: (value.write ++ Value.writeEntries entries))
end

mutual
def Value.rounds : Value → Nat
  | .null => 1
  | .bool _ => 1
  | .number _ => 1
  | .string _ => 1
  | .array items => 1 + Value.itemsRounds items
  | .object entries => 1 + Value.entriesRounds entries

def Value.itemsRounds : List Value → Nat
  | [] => 0
  | item :: items => item.rounds + Value.itemsRounds items

def Value.entriesRounds : List (String × Value) → Nat
  | [] => 0
  | (_, value) :: entries => value.rounds + Value.entriesRounds entries
end

mutual
/-- The content serde's `ContentVisitor` builds from a value at serde_json's `remaining_depth`:
    an array or an object is refused when its contents would reach zero. -/
def Value.contentAt : Nat → Value → Except ErrorCode Content
  | _, .null => .ok .unit
  | _, .bool b => .ok (.bool b)
  | _, .number x => x.read.map ParserNumber.content
  | _, .string s => .ok (.string s)
  | depth, .array items =>
    if 2 ≤ depth then (Value.itemsContentAt (depth - 1) items).map .seq else .error .recursionLimitExceeded
  | depth, .object entries =>
    if 2 ≤ depth then (Value.entriesContentAt (depth - 1) entries).map .map else .error .recursionLimitExceeded

def Value.itemsContentAt : Nat → List Value → Except ErrorCode (List Content)
  | _, [] => .ok []
  | depth, item :: items =>
    match item.contentAt depth with
    | .ok c => (Value.itemsContentAt depth items).map (c :: ·)
    | .error e => .error e

def Value.entriesContentAt : Nat → List (String × Value) → Except ErrorCode (List (String × Content))
  | _, [] => .ok []
  | depth, (key, value) :: entries =>
    match value.contentAt depth with
    | .ok c => (Value.entriesContentAt depth entries).map ((key, c) :: ·)
    | .error e => .error e
end

mutual
def Value.nesting : Value → Nat
  | .null => 0
  | .bool _ => 0
  | .number _ => 0
  | .string _ => 0
  | .array items => Value.itemsNesting items + 1
  | .object entries => Value.entriesNesting entries + 1

def Value.itemsNesting : List Value → Nat
  | [] => 0
  | item :: items => max item.nesting (Value.itemsNesting items)

def Value.entriesNesting : List (String × Value) → Nat
  | [] => 0
  | (_, value) :: entries => max value.nesting (Value.entriesNesting entries)
end

mutual
def Value.inRange : Value → Bool
  | .number x => x.read.isOk
  | .array items => Value.itemsInRange items
  | .object entries => Value.entriesInRange entries
  | _ => true

def Value.itemsInRange : List Value → Bool
  | [] => true
  | item :: items => item.inRange && Value.itemsInRange items

def Value.entriesInRange : List (String × Value) → Bool
  | [] => true
  | (_, value) :: entries => value.inRange && Value.entriesInRange entries
end

section

variable {depth : Nat} {fuel : Nat}

end

end Parlance.Json
