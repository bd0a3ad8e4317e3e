import Counterpart.Numeric.Binary

/-!
This module contains decimal numbers, the scanning of their digits and the rounding of a decimal
number to a binary format.
-/

namespace Counterpart.Numeric

/-- A nonnegative decimal number, `digits * 10 ^ exponent`. -/
structure Decimal where
  digits : Nat
  exponent : Int
  deriving DecidableEq, Repr

def width (n : Nat) : Nat := (Nat.toDigits 10 n).length

def ofDigits (cs : List Char) : Nat := Nat.ofDigitChars 10 cs 0

def spanDigits (cs : List Char) : List Char × List Char :=
  (cs.takeWhile Char.isDigit, cs.dropWhile Char.isDigit)

namespace Decimal

def ofParts (whole fraction : List Char) (exponent : Int) : Decimal :=
  ⟨ofDigits (whole ++ fraction), exponent - fraction.length⟩

/-- The least power of ten that lies above the number. -/
def order (d : Decimal) : Int := width d.digits + d.exponent

def round (f : Format) (negative : Bool) (d : Decimal) : Binary f :=
  if d.digits = 0 then
    .finite (.nearest f negative 0 1)
  -- Far above and below one the order alone settles the result, so that a large exponent costs
  -- nothing.
  else if 400 < d.order then
    .infinite negative
  else if d.order < -400 then
    .finite (.nearest f negative 0 1)
  else if 0 ≤ d.exponent then
    .round f negative (d.digits * Nat.pow 10 d.exponent.toNat * one) 1
  else
    .round f negative (d.digits * one) (Nat.pow 10 (-d.exponent).toNat)

def scanExponent : List Char → Option (Int × List Char)
  | c :: cs =>
    if c = 'e' ∨ c = 'E' then
      let (negative, rest) : Bool × List Char :=
        match cs with
        | '-' :: cs => (true, cs)
        | '+' :: cs => (false, cs)
        | cs => (false, cs)
      let (digits, rest) := spanDigits rest
      if digits.isEmpty then
        none
      else
        let value : Int := ofDigits digits
        some (if negative then -value else value, rest)
    else
      some (0, c :: cs)
  | [] => some (0, [])

def scanFraction : List Char → List Char × List Char
  | '.' :: cs => spanDigits cs
  | cs => ([], cs)

def ofText? (cs : List Char) : Option Decimal := do
  let (whole, rest) := spanDigits cs
  let (fraction, rest) := scanFraction rest
  let (exponent, rest) ← scanExponent rest
  if (whole.isEmpty && fraction.isEmpty) || !rest.isEmpty then
    none
  else
    some (ofParts whole fraction exponent)

end Decimal

namespace Binary

def ofText? (f : Format) (cs : List Char) : Option (Binary f) :=
  let (negative, body) : Bool × List Char :=
    match cs with
    | '-' :: cs => (true, cs)
    | '+' :: cs => (false, cs)
    | cs => (false, cs)
  match Decimal.ofText? body with
  | some d => some (d.round f negative)
  | none =>
    let word := body.map Char.toLower
    if word = "inf".toList ∨ word = "infinity".toList then
      some (.infinite negative)
    else if word = "nan".toList then
      some .nan
    else
      none

end Binary

end Counterpart.Numeric
