import Switchboard.Json.Scan

/-!
# Scanning numbers

A number without fraction and exponent is whole while it fits a word; every other number is the
float of its leading digits, as many as a word holds, scaled by a power of ten.
-/

namespace Switchboard.Json

inductive Numeral
  | whole (n : Whole)
  | float (x : Floating)

def Numeral.toJson : Numeral → Json
  | whole n => .whole n
  | float x => .float x

namespace Number

def wordLimit : Nat := 1 <<< 64

/-- Digits read as long as a word holds them: their value, their count, and the rest. -/
def takeDigits (value count : Nat) : List UInt8 → Nat × Nat × List UInt8
  | [] => (value, count, [])
  | b :: rest =>
    if isDigit b && value * 10 + digitValue b < wordLimit then
      takeDigits (value * 10 + digitValue b) (count + 1) rest
    else (value, count, b :: rest)

def dropDigits (count : Nat) : List UInt8 → Nat × List UInt8
  | [] => (count, [])
  | b :: rest => if isDigit b then dropDigits (count + 1) rest else (count, b :: rest)

def power (n : Nat) : Floating :=
  Floating.round .double false (Nat.pow 10 n) 1

def greatestPower : Nat := 308

def scaleDown (x : Floating) (n : Nat) : Floating :=
  if n ≤ greatestPower then x.div .double (power n)
  else if x.isZero then x
  else scaleDown (x.div .double (power greatestPower)) (n - greatestPower)
termination_by n
decreasing_by
  simp only [greatestPower] at *
  omega

/-- The float `digits * 10 ^ exponent`: digits, power and result are each rounded. -/
def scale? (digits : Nat) (exponent : Int) : Option Floating :=
  let x := Floating.ofInt .double digits
  if exponent < 0 then some (scaleDown x exponent.natAbs)
  else if exponent.natAbs ≤ greatestPower then
    let y := x.mul .double (power exponent.natAbs)
    if y.isFinite then some y else none
  else if x.isZero then some x
  else none

def ofParts (negative : Bool) (digits : Nat) (exponent : Int) : Reader Numeral := fun rest =>
  match scale? digits exponent with
  | some x => .ok (.float (if negative then x.neg else x), rest)
  | none => .error (.here .numberOutOfRange rest)

/-- Exponents stop growing here: larger ones make a number zero or too large. -/
def exponentLimit : Nat := 1 <<< 31

def takeExponent (value : Nat) : List UInt8 → Option Nat × List UInt8
  | [] => (some value, [])
  | b :: rest =>
    if isDigit b then
      if value * 10 + digitValue b < exponentLimit then
        takeExponent (value * 10 + digitValue b) rest
      else (none, rest)
    else (some value, b :: rest)

def readExponent (negative : Bool) (digits : Nat) (exponent : Int) : Reader Numeral := fun bytes =>
  let (down, bytes) := match bytes with
    | 43 :: rest => (false, rest)
    | 45 :: rest => (true, rest)
    | rest => (false, rest)
  match bytes with
  | [] => .error (.here .endInValue [])
  | b :: rest =>
    if isDigit b then
      match takeExponent (digitValue b) rest with
      | (some value, rest) =>
        ofParts negative digits (if down then exponent - value else exponent + value) rest
      | (none, rest) =>
        if digits ≠ 0 ∧ !down then .error (.here .numberOutOfRange rest)
        else .ok (.float (.zero negative), (dropDigits 0 rest).2)
    else .error (.here .invalidNumber rest)

def readScale (negative : Bool) (digits : Nat) (exponent : Int) : Reader Numeral := fun bytes =>
  match bytes with
  | 101 :: rest | 69 :: rest => readExponent negative digits exponent rest
  | rest => ofParts negative digits exponent rest

/-- The digits after the point. Those that no longer fit the word do not count. -/
def readFraction (negative : Bool) (digits : Nat) (exponent : Int) : Reader Numeral := fun bytes =>
  match takeDigits digits 0 bytes with
  | (digits, count, rest) =>
    match rest with
    | [] =>
      if count = 0 then .error (.next .endInValue [])
      else ofParts negative digits (exponent - count) []
    | b :: _ =>
      if isDigit b then readScale negative digits (exponent - count) (dropDigits 0 rest).2
      else if count = 0 then .error (.next .invalidNumber rest)
      else readScale negative digits (exponent - count) rest

/-- A whole number, or the float of one that no word holds. A negative zero is a float. -/
def ofDigits (negative : Bool) (digits : Nat) : Numeral :=
  let float : Numeral := .float ((Floating.ofInt .double digits).neg)
  if negative then
    if digits = 0 then float
    else match Whole.ofInt? (-digits) with
      | some n => .whole n
      | none => float
  else match Whole.ofInt? digits with
    | some n => .whole n
    | none => .float (Floating.ofInt .double digits)

def readTail (negative : Bool) (digits : Nat) : Reader Numeral := fun bytes =>
  match bytes with
  | 46 :: rest => readFraction negative digits 0 rest
  | 101 :: rest | 69 :: rest => readExponent negative digits 0 rest
  | b :: rest =>
    if isDigit b then
      let (dropped, rest) := dropDigits 0 (b :: rest)
      match rest with
      | 46 :: rest => readFraction negative digits dropped rest
      | rest => readScale negative digits dropped rest
    else .ok (ofDigits negative digits, b :: rest)
  | [] => .ok (ofDigits negative digits, [])

end Number

def readNumber (negative : Bool) : Reader Numeral := fun bytes =>
  match bytes with
  | [] => .error (.here .endInValue [])
  | 48 :: rest =>
    match rest with
    | b :: _ =>
      if isDigit b then .error (.next .invalidNumber rest) else Number.readTail negative 0 rest
    | [] => Number.readTail negative 0 []
  | b :: rest =>
    if isDigit b then
      let (digits, _, rest) := Number.takeDigits 0 0 (b :: rest)
      Number.readTail negative digits rest
    else .error (.here .invalidNumber rest)

end Switchboard.Json
