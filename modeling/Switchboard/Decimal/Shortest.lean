import Switchboard.Floating

/-!
# Shortest decimals

The decimal with the fewest digits that reads back as a given binary number: of the decimals that
round to the number, those with the fewest digits, and of these the nearest.
-/

namespace Switchboard

/-- The number `digits * 10 ^ exponent`. -/
structure Decimal where
  digits : Nat
  exponent : Int
deriving DecidableEq, Repr

namespace Decimal

def strip : Nat → Decimal → Decimal
  | 0, d => d
  | n + 1, d =>
    if d.digits ≠ 0 ∧ d.digits % 10 = 0 then strip n ⟨d.digits / 10, d.exponent + 1⟩ else d

/-- The least number of factors ten, counted from `count`, that brings `num` to at least `den`. -/
def tensBelow : Nat → Nat → Nat → Nat → Nat
  | 0, count, _, _ => count
  | fuel + 1, count, num, den =>
    if den ≤ num then count else tensBelow fuel (count + 1) (num * 10) den

def width (n : Nat) : Nat :=
  (Nat.toDigits 10 n).length

def leadingExponent (num den : Nat) : Int :=
  if den ≤ num then (width (num / den) : Int) - 1
  else -(tensBelow (den.log2 + 1) 0 num den : Int)

/-- The reals that round to a number, in quarters of its last place. -/
structure Interval where
  low : Nat
  middle : Nat
  high : Nat
  closed : Bool
  place : Int

def intervalOf (format : FloatFormat) (mantissa : Nat) (exponent : Int) : Interval :=
  let below := if mantissa = 1 <<< (format.precision - 1) ∧ format.lowest < exponent then 1 else 2
  { low := 4 * mantissa - below
    middle := 4 * mantissa
    high := 4 * mantissa + 2
    closed := mantissa % 2 == 0
    place := exponent - 2 }

namespace Interval

/-- `n` quarters of the last place as a quotient in units of `10 ^ grid`. -/
def scaled (interval : Interval) (grid : Int) (n : Nat) : Nat × Nat :=
  ((n <<< interval.place.toNat) * Nat.pow 10 (-grid).toNat,
   (1 <<< (-interval.place).toNat) * Nat.pow 10 grid.toNat)

def holds (interval : Interval) (grid : Int) (digits : Nat) : Bool :=
  let (low, den) := interval.scaled grid interval.low
  let (high, _) := interval.scaled grid interval.high
  let x := digits * den
  (low < x && x < high) || (interval.closed && (x == low || x == high))

def onGrid? (interval : Interval) (grid : Int) : Option Nat :=
  let (num, den) := interval.scaled grid interval.middle
  let down := num / den
  let twice := 2 * (num % den)
  let upFirst := twice > den || (twice == den && down % 2 == 1)
  let (first, second) := if upFirst then (down + 1, down) else (down, down + 1)
  if interval.holds grid first then some first
  else if interval.holds grid second then some second
  else none

def search (interval : Interval) : Nat → Int → Decimal
  | 0, grid =>
    let (num, den) := interval.scaled grid interval.middle
    ⟨num / den, grid⟩
  | fuel + 1, grid =>
    match interval.onGrid? grid with
    | some digits => strip (width digits) ⟨digits, grid⟩
    | none => search interval fuel (grid - 1)

end Interval

/-- The shortest decimal of a positive number of a format. -/
def shortest (format : FloatFormat) (mantissa : Nat) (exponent : Int) : Decimal :=
  let (num, den) := Floating.ratio mantissa exponent
  (intervalOf format mantissa exponent).search (format.precision / 3 + 2) (leadingExponent num den)

end Decimal

end Switchboard
