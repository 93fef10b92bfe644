/-!
# Binary floating-point numbers

Numbers of a binary format, kept exactly as a sign, a mantissa and an exponent. Every operation
computes an exact quotient and rounds it once, to the nearest number and in a tie to the even one.
-/

namespace Switchboard

/-- A binary format: its significant bits, and the exponents of the last place of its smallest
and of its largest numbers. -/
structure FloatFormat where
  precision : Nat
  lowest : Int
  highest : Int
deriving DecidableEq, Repr

namespace FloatFormat

def double : FloatFormat := ⟨53, -1074, 971⟩

def single : FloatFormat := ⟨24, -149, 104⟩

end FloatFormat

/-- A floating-point number; a finite one is `mantissa * 2 ^ exponent` with a sign. -/
inductive Floating
  | finite (negative : Bool) (mantissa : Nat) (exponent : Int)
  | infinite (negative : Bool)
  | nan
deriving DecidableEq, Repr, Inhabited

namespace Floating

def zero (negative : Bool) : Floating :=
  .finite negative 0 0

def isZero : Floating → Bool
  | finite _ mantissa _ => mantissa == 0
  | _ => false

def isFinite : Floating → Bool
  | finite .. => true
  | _ => false

def isNegative : Floating → Bool
  | finite negative .. => negative
  | infinite negative => negative
  | nan => false

def neg : Floating → Floating
  | finite negative mantissa exponent => .finite (!negative) mantissa exponent
  | infinite negative => .infinite (!negative)
  | nan => .nan

/-- The quotient of `num * 2 ^ (-exponent)` and `den`, rounded to the nearest whole number and in
a tie to the even one. -/
def roundAt (num den : Nat) (exponent : Int) : Nat :=
  let num := num <<< (-exponent).toNat
  let den := den <<< exponent.toNat
  let quotient := num / den
  let twice := 2 * (num % den)
  if twice > den || (twice == den && quotient % 2 == 1) then quotient + 1 else quotient

def placeOf (format : FloatFormat) (num den : Nat) : Int :=
  let guess : Int := (num.log2 : Int) - (den.log2 : Int) - (format.precision - 1 : Nat)
  let full := (den <<< (format.precision - 1)) <<< guess.toNat ≤ num <<< (-guess).toNat
  max format.lowest (if full then guess else guess - 1)

def round (format : FloatFormat) (negative : Bool) (num den : Nat) : Floating :=
  if num = 0 then zero negative
  else
    let exponent := placeOf format num den
    let mantissa := roundAt num den exponent
    let (mantissa, exponent) :=
      if mantissa = 1 <<< format.precision then (mantissa / 2, exponent + 1)
      else (mantissa, exponent)
    if mantissa = 0 then zero negative
    else if format.highest < exponent then .infinite negative
    else .finite negative mantissa exponent

def ofInt (format : FloatFormat) (n : Int) : Floating :=
  round format (n < 0) n.natAbs 1

def ratio (mantissa : Nat) (exponent : Int) : Nat × Nat :=
  (mantissa <<< exponent.toNat, 1 <<< (-exponent).toNat)

def convert (format : FloatFormat) : Floating → Floating
  | finite negative mantissa exponent =>
    let (num, den) := ratio mantissa exponent
    round format negative num den
  | other => other

def mul (format : FloatFormat) : Floating → Floating → Floating
  | finite n m e, finite n' m' e' =>
    let (num, den) := ratio (m * m') (e + e')
    round format (n != n') num den
  | nan, _ | _, nan => .nan
  | x, y => if x.isZero || y.isZero then .nan else .infinite (x.isNegative != y.isNegative)

def div (format : FloatFormat) : Floating → Floating → Floating
  | finite n m e, finite n' m' e' =>
    if m' = 0 then (if m = 0 then .nan else .infinite (n != n'))
    else
      let (num, den) := ratio m (e - e')
      round format (n != n') num (den * m')
  | nan, _ | _, nan => .nan
  | infinite _, infinite _ => .nan
  | infinite n, y => .infinite (n != y.isNegative)
  | x, infinite n => zero (x.isNegative != n)

def greatest (format : FloatFormat) : Floating :=
  .finite false ((1 <<< format.precision) - 1) format.highest

def leastNormal (format : FloatFormat) : Floating :=
  .finite false (1 <<< (format.precision - 1)) format.lowest

end Floating

end Switchboard
