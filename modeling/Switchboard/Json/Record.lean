import Switchboard.Json.Parser
import Switchboard.Json.Scan.Skip

/-!
# Reading records

Reads values of known types from text. A record is an object with members of known names, or an
array with their values in order; every member it names is stored in a draft of the result.
-/

namespace Switchboard.Json

/-- The fault of a value that is not of the type asked for. The value is read as far as its kind
needs. -/
def mismatch (expected : String) (bytes : List UInt8) : Fault :=
  let wrong (found : Found) (rest : List UInt8) : Fault := .here (.invalidType found expected) rest
  let word (letters : List UInt8) (found : Found) (rest : List UInt8) : Fault :=
    match readWord letters rest with
    | .ok (_, rest) => wrong found rest
    | .error fault => fault
  let number (negative : Bool) (rest : List UInt8) : Fault :=
    match readNumber negative rest with
    | .ok (.whole n, rest) => wrong (.whole n.val) rest
    | .ok (.float x, rest) => wrong (.float x) rest
    | .error fault => fault
  match bytes with
  | [] => .next .endInValue []
  | b :: rest =>
    if b = 110 then word restOfNull .null rest
    else if b = 116 then word restOfTrue (.bool true) rest
    else if b = 102 then word restOfFalse (.bool false) rest
    else if b = 45 then number true rest
    else if isDigit b then number false (b :: rest)
    else if b = 34 then
      match readString rest with
      | .ok (s, rest) => wrong (.string s) rest
      | .error fault => fault
    else if b = 91 then wrong .sequence (b :: rest)
    else if b = 123 then wrong .map (b :: rest)
    else .next .expectedValue (b :: rest)

def readText : Reader String := fun bytes =>
  match skipSpace bytes with
  | 34 :: rest => readString rest
  | rest => .error (mismatch "a string" rest)

def readBool : Reader Bool := fun bytes =>
  match skipSpace bytes with
  | 116 :: rest => do
    let (_, rest) ← readWord restOfTrue rest
    .ok (true, rest)
  | 102 :: rest => do
    let (_, rest) ← readWord restOfFalse rest
    .ok (false, rest)
  | rest => .error (mismatch "a boolean" rest)

def readInt (expected : String) (least greatest : Int) : Reader Int := fun bytes =>
  let check : Numeral × List UInt8 → Except Fault (Int × List UInt8)
    | (.whole n, rest) =>
      if least ≤ n.val ∧ n.val ≤ greatest then .ok (n.val, rest)
      else .error (.here (.invalidValue (.whole n.val) expected) rest)
    | (.float x, rest) => .error (.here (.invalidType (.float x) expected) rest)
  match skipSpace bytes with
  | [] => .error (.next .endInValue [])
  | b :: rest =>
    if b = 45 then readNumber true rest >>= check
    else if isDigit b then readNumber false (b :: rest) >>= check
    else .error (mismatch expected (b :: rest))

def readOption (reader : Reader α) : Reader (Option α) := fun bytes =>
  match skipSpace bytes with
  | 110 :: rest => do
    let (_, rest) ← readWord restOfNull rest
    .ok (none, rest)
  | rest => do
    let (value, rest) ← reader rest
    .ok (some value, rest)

def readNull : Reader Unit := fun bytes =>
  match skipSpace bytes with
  | 110 :: rest => readWord restOfNull rest
  | rest => .error (mismatch "unit" rest)

def readVariant (known : List String) (depth : Nat) : Reader String := fun bytes =>
  let name : Reader String := fun bytes => do
    let (name, rest) ← readText bytes
    if known.contains name then .ok (name, rest)
    else .error (.here (.unknownVariant name known) rest)
  match skipSpace bytes with
  | 34 :: rest => name (34 :: rest)
  | 123 :: rest =>
    match depth with
    | 0 => .error (.next .tooDeep (123 :: rest))
    | _ + 1 => do
      let (name, rest) ← name rest
      let (_, rest) ← readColon rest
      let (_, rest) ← readNull rest
      match skipSpace rest with
      | 125 :: rest => .ok (name, rest)
      | [] => .error (.here .endInObject [])
      | rest => .error (.here .expectedValue rest)
  | [] => .error (.next .endInValue [])
  | rest => .error (.next .expectedValue rest)

/-- A member of a record: how its value is read into a draft, with so many levels left below. -/
structure Field (δ : Type) where
  name : String
  required : Bool := false
  read : Nat → Reader (δ → δ)

def Field.of (name : String) (required : Bool) (reader : Nat → Reader α) (store : α → δ → δ) :
    Field δ where
  name := name
  required := required
  read := fun depth bytes => do
    let (value, rest) ← reader depth bytes
    .ok (store value, rest)

/-- A kind of record: its name, its fields in order, and the draft of a record without members. -/
structure Shape (δ : Type) where
  name : String
  fields : List (Field δ)
  blank : δ

namespace Shape

/-- Where reading stands once an object is left after a fault: past its brace, if that is next. -/
def leaveObject (bytes : List UInt8) : List UInt8 :=
  match skipSpace bytes with
  | 125 :: rest => rest
  | rest => rest

def complete (shape : Shape δ) (seen : List String) (draft : δ) : Reader δ := fun rest =>
  match shape.fields.find? fun field => field.required && !seen.contains field.name with
  | some field => .error (.here (.missingField field.name) rest)
  | none => .ok (draft, rest)

def readMembers (shape : Shape δ) (depth : Nat) : Nat → List String → δ → Reader δ
  | 0, _, _, bytes => .error (.here .tooDeep bytes)
  | fuel + 1, seen, draft, bytes => do
    let (name, rest) ← readString bytes
    let (seen, draft, rest) ←
      match shape.fields.find? fun field => field.name == name with
      | some field => do
        if seen.contains name then
          .error (.here (.duplicateField name) (leaveObject rest))
        let (_, rest) ← readColon rest
        let (store, rest) ← field.read depth rest
        .ok (name :: seen, store draft, rest)
      | none => do
        let (_, rest) ← readColon rest
        let (_, rest) ← skipValue rest
        .ok (seen, draft, rest)
    match skipSpace rest with
    | 44 :: rest =>
      match skipSpace rest with
      | 34 :: rest => readMembers shape depth fuel seen draft rest
      | 125 :: rest => .error (.here .trailingComma rest)
      | [] => .error (.next .endInValue [])
      | rest => .error (.next .keyMustBeString rest)
    | 125 :: rest => complete shape seen draft rest
    | [] => .error (.next .endInObject [])
    | rest => .error (.next .expectedCommaOrBrace rest)

def readEnd (draft : δ) : Reader δ := fun bytes =>
  match skipSpace bytes with
  | 93 :: rest => .ok (draft, rest)
  | 44 :: rest =>
    match skipSpace rest with
    | 93 :: rest => .error (.here .trailingComma rest)
    | rest => .error (.next .trailingCharacters rest)
  | [] => .error (.next .endInList [])
  | rest => .error (.next .trailingCharacters rest)

def readSlots (shape : Shape δ) (depth : Nat) : List (Field δ) → Nat → δ → Reader δ
  | [], _, draft, bytes => readEnd draft bytes
  | field :: fields, index, draft, bytes =>
    let slot : Reader δ := fun bytes => do
      let (store, rest) ← field.read depth bytes
      readSlots shape depth fields (index + 1) (store draft) rest
    match skipSpace bytes with
    | [] => .error (.next .endInList [])
    | 93 :: rest =>
      if field.required then
        .error (.here (.invalidLength index
          (shape.name ++ " with " ++ Nat.repr shape.fields.length ++ " elements")) rest)
      else readSlots shape depth fields (index + 1) draft (93 :: rest)
    | b :: rest =>
      if index = 0 then slot (b :: rest)
      else if b = 44 then
        match skipSpace rest with
        | 93 :: rest => .error (.here .trailingComma rest)
        | [] => .error (.next .endInValue [])
        | rest => slot rest
      else .error (.next .expectedCommaOrBracket (b :: rest))

def read (shape : Shape δ) (depth : Nat) : Reader δ := fun bytes =>
  match skipSpace bytes with
  | 123 :: rest =>
    match depth with
    | 0 => .error (.next .tooDeep (123 :: rest))
    | depth + 1 =>
      match skipSpace rest with
      | 125 :: rest => complete shape [] shape.blank rest
      | 34 :: rest => readMembers shape depth (rest.length + 1) [] shape.blank rest
      | [] => .error (.next .endInObject [])
      | rest => .error (.next .keyMustBeString rest)
  | 91 :: rest =>
    match depth with
    | 0 => .error (.next .tooDeep (91 :: rest))
    | depth + 1 => readSlots shape depth shape.fields 0 shape.blank rest
  | rest => .error (mismatch shape.name rest)

def parseBytes (shape : Shape δ) (bytes : List UInt8) : Except Error δ :=
  readAll (shape.read maxDepth) bytes

def parse (shape : Shape δ) (text : String) : Except Error δ :=
  shape.parseBytes text.toUTF8.toList

end Shape

end Switchboard.Json
