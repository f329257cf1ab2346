/-! # Decimal numerals

A numeral with a point or an exponent stands for `significand * 10 ^ exponent`. Documents read such
a numeral as a double, so it matters whether one is out of the range of doubles.
-/
namespace CodeHighlight

structure Decimal where
  significand : Nat
  exponent : Int
deriving DecidableEq, Repr

namespace Decimal

def isDigit (c : Char) : Bool := '0' ≤ c && c ≤ '9'

def ofDigits (digits : List Char) : Nat :=
  digits.foldl (fun value c => value * 10 + (c.toNat - 48)) 0

/-- The smallest number that rounding to nearest takes to infinity: half a unit beyond the
greatest double. -/
def doubleBound : Nat := Nat.pow 2 1024 - Nat.pow 2 970

/-- Reading the numeral as a double gives infinity. Far from the bound the count of digits decides,
so that no power of ten with a huge exponent is computed. -/
def exceedsDouble (d : Decimal) : Bool :=
  if d.significand = 0 then false
  else
    let magnitude : Int := (Nat.toDigits 10 d.significand).length + d.exponent
    if magnitude < 300 then false
    else if 320 < magnitude then true
    else if 0 ≤ d.exponent then doubleBound ≤ d.significand * Nat.pow 10 d.exponent.toNat
    else doubleBound * Nat.pow 10 (-d.exponent).toNat ≤ d.significand

end Decimal

/-- A numeral as it is written: digits, digits after a point, and an exponent. -/
structure Numeral where
  whole : List Char
  fraction : List Char
  exponent : Int
deriving DecidableEq, Repr

def Numeral.toDecimal (n : Numeral) : Decimal where
  significand := Decimal.ofDigits (n.whole ++ n.fraction)
  exponent := n.exponent - n.fraction.length

end CodeHighlight
