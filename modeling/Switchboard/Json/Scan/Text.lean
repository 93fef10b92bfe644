import Switchboard.Json.Scan

/-!
# Scanning strings

The bytes of a string after its opening quote, with escapes resolved, and the text they spell.
-/

namespace Switchboard.Json

namespace Text

def hexValue? (b : UInt8) : Option Nat :=
  if 48 ≤ b ∧ b ≤ 57 then some (b.toNat - 48)
  else if 97 ≤ b ∧ b ≤ 102 then some (b.toNat - 87)
  else if 65 ≤ b ∧ b ≤ 70 then some (b.toNat - 55)
  else none

def readHex : Reader Nat
  | a :: b :: c :: d :: rest =>
    match hexValue? a, hexValue? b, hexValue? c, hexValue? d with
    | some a, some b, some c, some d => .ok (((a * 16 + b) * 16 + c) * 16 + d, rest)
    | _, _, _, _ => .error (.here .invalidEscape rest)
  | _ => .error (.here .endInString [])

def isLeading (unit : Nat) : Bool := 0xD800 ≤ unit && unit ≤ 0xDBFF

def isTrailing (unit : Nat) : Bool := 0xDC00 ≤ unit && unit ≤ 0xDFFF

/-- The code point after a backslash and `u`: one unit, or two that form a pair. -/
def readCodePoint : Reader Nat := fun bytes => do
  let (unit, bytes) ← readHex bytes
  if isTrailing unit then .error (.here .loneSurrogate bytes)
  else if isLeading unit then
    match bytes with
    | 92 :: 117 :: rest =>
      let (second, rest) ← readHex rest
      if isTrailing second then
        .ok ((unit - 0xD800) * 1024 + (second - 0xDC00) + 0x10000, rest)
      else .error (.here .loneSurrogate rest)
    | 92 :: _ :: rest => .error (.here .endOfHexEscape rest)
    | [92] => .error (.here .endInString [])
    | _ :: rest => .error (.here .endOfHexEscape rest)
    | [] => .error (.here .endInString [])
  else .ok (unit, bytes)

def readEscape : Reader (List UInt8)
  | [] => .error (.here .endInString [])
  | b :: rest =>
    if b = 34 ∨ b = 92 ∨ b = 47 then .ok ([b], rest)
    else if b = 98 then .ok ([8], rest)
    else if b = 102 then .ok ([12], rest)
    else if b = 110 then .ok ([10], rest)
    else if b = 114 then .ok ([13], rest)
    else if b = 116 then .ok ([9], rest)
    else if b = 117 then do
      let (point, rest) ← readCodePoint rest
      .ok (String.utf8EncodeChar (Char.ofNat point), rest)
    else .error (.here .invalidEscape rest)

/-- Puts the bytes up to the closing quote before `taken`, in reverse order. Every step takes at
least one byte. -/
def takeBytes : Nat → List UInt8 → Reader (List UInt8)
  | 0, _, _ => .error (.here .endInString [])
  | _ + 1, _, [] => .error (.here .endInString [])
  | fuel + 1, taken, b :: rest =>
    if b = 34 then .ok (taken, rest)
    else if b = 92 then do
      let (escaped, rest) ← readEscape rest
      takeBytes fuel (escaped.reverse ++ taken) rest
    else if b < 32 then .error (.here .controlCharacter rest)
    else takeBytes fuel (b :: taken) rest

def ofBytes? (bytes : List UInt8) : Option String :=
  String.fromUTF8? ⟨bytes.toArray⟩

def isContinuation (least greatest b : UInt8) : Bool :=
  least ≤ b && b ≤ greatest

def afterChar? : List UInt8 → Option (List UInt8)
  | [] => none
  | a :: rest =>
    if a < 0x80 then some rest
    else
      let least : UInt8 := if a = 0xE0 then 0xA0 else if a = 0xF0 then 0x90 else 0x80
      let greatest : UInt8 := if a = 0xED then 0x9F else if a = 0xF4 then 0x8F else 0xBF
      let more : Option Nat :=
        if 0xC2 ≤ a ∧ a ≤ 0xDF then some 0
        else if 0xE0 ≤ a ∧ a ≤ 0xEF then some 1
        else if 0xF0 ≤ a ∧ a ≤ 0xF4 then some 2
        else none
      match more, rest with
      | some n, b :: rest =>
        if isContinuation least greatest b && (rest.take n).length = n
            && (rest.take n).all (isContinuation 0x80 0xBF) then
          some (rest.drop n)
        else none
      | _, _ => none

/-- What is left after the first byte that does not belong to a character, within as many
characters. -/
def afterIllFormed : Nat → List UInt8 → List UInt8
  | 0, bytes => bytes
  | fuel + 1, bytes =>
    match afterChar? bytes with
    | some rest => afterIllFormed fuel rest
    | none => bytes.tail

end Text

def readString : Reader String := fun bytes => do
  let (taken, rest) ← Text.takeBytes (bytes.length + 1) [] bytes
  match Text.ofBytes? taken.reverse with
  | some s => .ok (s, rest)
  | none => .error (.here .invalidCodePoint (Text.afterIllFormed bytes.length bytes))

end Switchboard.Json
