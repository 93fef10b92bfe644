import Switchboard.Json.Error

/-!
# Scanning

Readers take what they read off the front of a list of bytes. A fault remembers how many bytes
were left where it is reported, from which its place in the whole text follows.
-/

namespace Switchboard.Json

/-- Why reading stopped, and the number of bytes that were left there. -/
structure Fault where
  cause : Cause
  left : Nat

/-- Reads a value off the front of the bytes and gives the rest. -/
abbrev Reader (α : Type) := List UInt8 → Except Fault (α × List UInt8)

namespace Fault

def here (cause : Cause) (rest : List UInt8) : Fault :=
  ⟨cause, rest.length⟩

def next (cause : Cause) (rest : List UInt8) : Fault :=
  ⟨cause, rest.length - 1⟩

end Fault

def Position.after : Position → List UInt8 → Position
  | position, [] => position
  | position, b :: rest =>
    Position.after
      (if b = 10 then ⟨position.line + 1, 0⟩ else ⟨position.line, position.column + 1⟩) rest

def Fault.toError (fault : Fault) (text : List UInt8) : Error :=
  ⟨fault.cause, some (Position.after ⟨1, 0⟩ (text.take (text.length - fault.left)))⟩

def isSpace (b : UInt8) : Bool :=
  b == 32 || b == 10 || b == 9 || b == 13

def isDigit (b : UInt8) : Bool :=
  48 ≤ b && b ≤ 57

def digitValue (b : UInt8) : Nat :=
  b.toNat - 48

def skipSpace (bytes : List UInt8) : List UInt8 :=
  bytes.dropWhile isSpace

def readWord : List UInt8 → Reader Unit
  | [], rest => .ok ((), rest)
  | _ :: _, [] => .error (.here .endInValue [])
  | w :: word, b :: rest =>
    if w = b then readWord word rest else .error (.here .expectedWord rest)

def restOfNull : List UInt8 := [117, 108, 108]
def restOfTrue : List UInt8 := [114, 117, 101]
def restOfFalse : List UInt8 := [97, 108, 115, 101]

def readColon : Reader Unit := fun bytes =>
  match skipSpace bytes with
  | 58 :: rest => .ok ((), rest)
  | [] => .error (.next .endInObject [])
  | rest => .error (.next .expectedColon rest)

end Switchboard.Json
