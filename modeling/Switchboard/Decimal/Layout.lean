import Switchboard.Decimal.Shortest

/-!
# Decimal layout

How a decimal is written: with its point in place while its exponent is moderate, and in
scientific notation otherwise.
-/

namespace Switchboard

/-- The leading exponents, from the first to the last, of decimals written with the point in
place. -/
structure DecimalLayout where
  first : Int
  last : Int

namespace DecimalLayout

def zeros (n : Nat) : List Char :=
  List.replicate n '0'

def positional (digits : List Char) (leading : Int) : List Char :=
  if leading < 0 then '0' :: '.' :: (zeros ((-leading).toNat - 1) ++ digits)
  else
    let whole := leading.toNat + 1
    if digits.length ≤ whole then digits ++ zeros (whole - digits.length) ++ ['.', '0']
    else digits.take whole ++ '.' :: digits.drop whole

def scientific (digits : List Char) (leading : Int) : List Char :=
  let mantissa := match digits with
    | d :: e :: rest => d :: '.' :: e :: rest
    | short => short
  let sign := if leading < 0 then '-' else '+'
  mantissa ++ 'e' :: sign :: Nat.toDigits 10 leading.natAbs

def decimal (layout : DecimalLayout) (d : Decimal) : List Char :=
  let digits := Nat.toDigits 10 d.digits
  let leading := d.exponent + digits.length - 1
  if layout.first ≤ leading ∧ leading ≤ layout.last then positional digits leading
  else scientific digits leading

def floating? (layout : DecimalLayout) (format : FloatFormat) : Floating → Option (List Char)
  | .finite negative mantissa exponent =>
    let digits :=
      if mantissa = 0 then ['0', '.', '0']
      else layout.decimal (Decimal.shortest format mantissa exponent)
    some (if negative then '-' :: digits else digits)
  | _ => none

end DecimalLayout

end Switchboard
