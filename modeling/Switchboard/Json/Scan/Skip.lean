import Switchboard.Json.Scan.Text

/-!
# Skipping values

A value that nobody asked for is passed over. It has to be JSON, but may nest to any depth, its
numbers may be of any size, and its strings need not spell a text.
-/

namespace Switchboard.Json.Skip

def digits (bytes : List UInt8) : List UInt8 :=
  bytes.dropWhile isDigit

def exponent : Reader Unit := fun bytes =>
  let bytes := match bytes with
    | 43 :: rest | 45 :: rest => rest
    | rest => rest
  match bytes with
  | [] => .error (.here .invalidNumber [])
  | b :: rest =>
    if isDigit b then .ok ((), digits rest) else .error (.here .invalidNumber rest)

def tail : Reader Unit := fun bytes =>
  match bytes with
  | 101 :: rest | 69 :: rest => exponent rest
  | rest => .ok ((), rest)

def number : Reader Unit := fun bytes => do
  let rest ← match bytes with
    | [] => .error (.here .invalidNumber [])
    | 48 :: rest =>
      match rest with
      | b :: _ => if isDigit b then .error (.next .invalidNumber rest) else .ok rest
      | [] => .ok []
    | b :: rest => if isDigit b then .ok (digits rest) else .error (.here .invalidNumber rest)
  match rest with
  | 46 :: rest =>
    match rest with
    | b :: more => if isDigit b then tail (digits more) else .error (.next .invalidNumber rest)
    | [] => .error (.next .invalidNumber [])
  | rest => tail rest

def string : Nat → Reader Unit
  | 0, _ => .error (.here .endInString [])
  | _ + 1, [] => .error (.here .endInString [])
  | fuel + 1, b :: rest =>
    if b = 34 then .ok ((), rest)
    else if b = 92 then
      match rest with
      | [] => .error (.here .endInString [])
      | e :: rest =>
        if e = 34 ∨ e = 92 ∨ e = 47 ∨ e = 98 ∨ e = 102 ∨ e = 110 ∨ e = 114 ∨ e = 116 then
          string fuel rest
        else if e = 117 then do
          let (_, rest) ← Text.readHex rest
          string fuel rest
        else .error (.here .invalidEscape rest)
    else if b < 32 then .error (.here .controlCharacter (b :: rest))
    else string fuel rest

mutual

/-- A value. Two units of fuel for every byte are enough, and one more. -/
def value : Nat → Reader Unit
  | 0, bytes => .error (.here .tooDeep bytes)
  | fuel + 1, bytes =>
    match skipSpace bytes with
    | [] => .error (.next .endInValue [])
    | b :: rest =>
      if b = 110 then readWord restOfNull rest
      else if b = 116 then readWord restOfTrue rest
      else if b = 102 then readWord restOfFalse rest
      else if b = 45 then number rest
      else if isDigit b then number (b :: rest)
      else if b = 34 then string (rest.length + 1) rest
      else if b = 91 then
        match skipSpace rest with
        | 93 :: rest => .ok ((), rest)
        | [] => .error (.next .endInList [])
        | rest => items fuel rest
      else if b = 123 then
        match skipSpace rest with
        | 125 :: rest => .ok ((), rest)
        | [] => .error (.next .endInObject [])
        | rest => members fuel rest
      else .error (.next .expectedValue (b :: rest))

def items : Nat → Reader Unit
  | 0, bytes => .error (.here .tooDeep bytes)
  | fuel + 1, bytes => do
    let (_, rest) ← value fuel bytes
    match skipSpace rest with
    | 44 :: rest => items fuel rest
    | 93 :: rest => .ok ((), rest)
    | [] => .error (.next .endInList [])
    | rest => .error (.next .expectedCommaOrBracket rest)

def members : Nat → Reader Unit
  | 0, bytes => .error (.here .tooDeep bytes)
  | fuel + 1, bytes => do
    let rest ← match skipSpace bytes with
      | 34 :: rest => .ok rest
      | [] => .error (.next .endInObject [])
      | rest => .error (.next .keyMustBeString rest)
    let (_, rest) ← string (rest.length + 1) rest
    let (_, rest) ← readColon rest
    let (_, rest) ← value fuel rest
    match skipSpace rest with
    | 44 :: rest => members fuel rest
    | 125 :: rest => .ok ((), rest)
    | [] => .error (.next .endInObject [])
    | rest => .error (.next .expectedCommaOrBrace rest)

end

end Switchboard.Json.Skip

namespace Switchboard.Json

def skipValue : Reader Unit := fun bytes =>
  Skip.value (2 * bytes.length + 2) bytes

end Switchboard.Json
