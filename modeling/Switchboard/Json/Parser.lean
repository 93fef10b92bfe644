import Switchboard.Json.Scan.Number
import Switchboard.Json.Scan.Text

/-!
# Parsing JSON

Reads a value of any shape. Arrays and objects nest at most `maxDepth` deep.
-/

namespace Switchboard.Json

def maxDepth : Nat := 127

mutual

/-- A value with at most `depth` levels below it. Two units of fuel for every byte are enough, and
one more. -/
def readValue : Nat → Nat → Reader Json
  | 0, _, bytes => .error (.here .tooDeep bytes)
  | fuel + 1, depth, bytes =>
    match skipSpace bytes with
    | [] => .error (.next .endInValue [])
    | b :: rest =>
      if b = 110 then do
        let (_, rest) ← readWord restOfNull rest
        .ok (.null, rest)
      else if b = 116 then do
        let (_, rest) ← readWord restOfTrue rest
        .ok (.bool true, rest)
      else if b = 102 then do
        let (_, rest) ← readWord restOfFalse rest
        .ok (.bool false, rest)
      else if b = 45 then do
        let (n, rest) ← readNumber true rest
        .ok (n.toJson, rest)
      else if isDigit b then do
        let (n, rest) ← readNumber false (b :: rest)
        .ok (n.toJson, rest)
      else if b = 34 then do
        let (s, rest) ← readString rest
        .ok (.string s, rest)
      else if b = 91 then
        match depth with
        | 0 => .error (.next .tooDeep (b :: rest))
        | depth + 1 =>
          match skipSpace rest with
          | 93 :: rest => .ok (.array [], rest)
          | [] => .error (.next .endInList [])
          | rest => do
            let (items, rest) ← readItems fuel depth rest
            .ok (.array items, rest)
      else if b = 123 then
        match depth with
        | 0 => .error (.next .tooDeep (b :: rest))
        | depth + 1 =>
          match skipSpace rest with
          | 125 :: rest => .ok (.object [], rest)
          | 34 :: rest => do
            let (members, rest) ← readMembers fuel depth rest
            .ok (.ofMembers members, rest)
          | [] => .error (.next .endInObject [])
          | rest => .error (.next .keyMustBeString rest)
      else .error (.next .expectedValue (b :: rest))

def readItems : Nat → Nat → Reader (List Json)
  | 0, _, bytes => .error (.here .tooDeep bytes)
  | fuel + 1, depth, bytes => do
    let (item, rest) ← readValue fuel depth bytes
    match skipSpace rest with
    | 44 :: rest =>
      match skipSpace rest with
      | 93 :: rest => .error (.here .trailingComma rest)
      | [] => .error (.next .endInValue [])
      | rest => do
        let (items, rest) ← readItems fuel depth rest
        .ok (item :: items, rest)
    | 93 :: rest => .ok ([item], rest)
    | [] => .error (.next .endInList [])
    | rest => .error (.next .expectedCommaOrBracket rest)

def readMembers : Nat → Nat → Reader (List (String × Json))
  | 0, _, bytes => .error (.here .tooDeep bytes)
  | fuel + 1, depth, bytes => do
    let (name, rest) ← readString bytes
    let (_, rest) ← readColon rest
    let (value, rest) ← readValue fuel depth rest
    match skipSpace rest with
    | 44 :: rest =>
      match skipSpace rest with
      | 34 :: rest => do
        let (members, rest) ← readMembers fuel depth rest
        .ok ((name, value) :: members, rest)
      | 125 :: rest => .error (.here .trailingComma rest)
      | [] => .error (.next .endInValue [])
      | rest => .error (.next .keyMustBeString rest)
    | 125 :: rest => .ok ([(name, value)], rest)
    | [] => .error (.next .endInObject [])
    | rest => .error (.next .expectedCommaOrBrace rest)

end

def readAny (depth : Nat) : Reader Json := fun bytes =>
  readValue (2 * bytes.length + 2) depth bytes

def readAll (reader : Reader α) (bytes : List UInt8) : Except Error α :=
  let result := do
    let (value, rest) ← reader bytes
    match skipSpace rest with
    | [] => .ok value
    | rest => .error (Fault.next .trailingCharacters rest)
  result.mapError (·.toError bytes)

def parseBytes (bytes : List UInt8) : Except Error Json :=
  readAll (readAny maxDepth) bytes

def parse (text : String) : Except Error Json :=
  parseBytes text.toUTF8.toList

end Switchboard.Json
