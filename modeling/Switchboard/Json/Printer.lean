import Switchboard.Json.Basic
import Switchboard.Decimal.Layout

/-!
# Printing JSON

JSON text without blanks. Strings escape the quote, the backslash and the control characters below
U+0020; everything else is written as it is.
-/

namespace Switchboard.Json

/-- Floats of 64 bits keep their point in place from `0.00001` to sixteen whole digits. -/
def doubleLayout : DecimalLayout := ⟨-5, 15⟩

def singleLayout : DecimalLayout := ⟨-6, 12⟩

def nullText : List Char := ['n', 'u', 'l', 'l']

def floatText (layout : DecimalLayout) (format : FloatFormat) (x : Floating) : List Char :=
  (layout.floating? format x).getD nullText

def wholeText (n : Int) : List Char :=
  if n < 0 then '-' :: Nat.toDigits 10 n.natAbs else Nat.toDigits 10 n.natAbs

def hexDigit (n : Nat) : Char :=
  if n < 10 then Char.ofNat (48 + n) else Char.ofNat (87 + n)

def escape (c : Char) : List Char :=
  if c = '"' then ['\\', '"']
  else if c = '\\' then ['\\', '\\']
  else if 0x20 ≤ c.toNat then [c]
  else match c.toNat with
    | 8 => ['\\', 'b']
    | 9 => ['\\', 't']
    | 10 => ['\\', 'n']
    | 12 => ['\\', 'f']
    | 13 => ['\\', 'r']
    | n => ['\\', 'u', '0', '0', hexDigit (n / 16), hexDigit (n % 16)]

def stringText (s : List Char) : List Char :=
  '"' :: (s.flatMap escape ++ ['"'])

mutual

def print : Json → List Char
  | null => nullText
  | bool true => ['t', 'r', 'u', 'e']
  | bool false => ['f', 'a', 'l', 's', 'e']
  | whole n => wholeText n.val
  | float x => floatText doubleLayout .double x
  | string s => stringText s.toList
  | array items => '[' :: (printItems items ++ [']'])
  | object members => '{' :: (printMembers members ++ ['}'])

def printItems : List Json → List Char
  | [] => []
  | item :: [] => print item
  | item :: next :: rest => print item ++ ',' :: printItems (next :: rest)

def printMembers : List (String × Json) → List Char
  | [] => []
  | (name, value) :: [] => stringText name.toList ++ ':' :: print value
  | (name, value) :: next :: rest =>
    stringText name.toList ++ ':' :: (print value ++ ',' :: printMembers (next :: rest))

end

def text (value : Json) : String :=
  String.ofList (print value)

end Switchboard.Json
