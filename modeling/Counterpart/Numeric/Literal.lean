import Counterpart.Numeric.Decimal

/-!
This module contains the reading of a decimal literal in two roundings: the leading digits that fit
a word of 64 bits are rounded, and the result is scaled by a rounded power of ten. A literal of up
to 15 digits with a power of ten up to the 22nd gives the nearest number, since nothing is rounded
before the last step; a longer one can give a neighbour of the nearest number.
-/

namespace Counterpart.Numeric

/-- Appends decimal digits to a number as long as it fits 64 bits. Gives the number and the digits
that are left. -/
def appendDigits (n : Nat) : List Char → Nat × List Char
  | [] => (n, [])
  | c :: cs =>
    let next := n * 10 + (c.toNat - '0'.toNat)
    if next < UInt64.size then appendDigits next cs else (n, c :: cs)

def powerOfTen (exponent : Nat) : Finite double := .ofInt double (Nat.pow 10 exponent)

namespace Decimal

def ofLeading (whole fraction : List Char) (exponent : Int) : Decimal :=
  let (n, wholeLeft) := appendDigits 0 whole
  let (n, fractionLeft) := appendDigits n fraction
  -- Every digit left before the point counts as a factor of ten; digits left after it do not count.
  ⟨n, exponent + wholeLeft.length - (fraction.length - fractionLeft.length : Nat)⟩

def scaled (d : Decimal) (negative : Bool) : Option (Finite double) :=
  let x : Finite double := .nearest double negative (d.digits * one) 1
  let down := (-d.exponent).toNat
  if d.digits = 0 then
    some x
  else if 308 < d.exponent then
    none
  else if 0 ≤ d.exponent then
    (Binary.product x (powerOfTen d.exponent.toNat)).finite?
  else if down ≤ 308 then
    some (x.div (powerOfTen down))
  -- One power of ten is not enough here.
  else if down ≤ 616 then
    some ((x.div (powerOfTen 308)).div (powerOfTen (down - 308)))
  else
    some (.nearest double negative 0 1)

end Decimal

end Counterpart.Numeric
