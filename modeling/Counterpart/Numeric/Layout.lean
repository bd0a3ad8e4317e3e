import Counterpart.Numeric.Shortest

/-!
This module contains the layouts in which a finite number is written: where positional digits end
and an exponent begins, and whether a whole number keeps its point.
-/

namespace Counterpart.Numeric

structure Layout where
  tie : Tie
  /-- Whether a whole number written positionally ends in `.0`. -/
  pointed : Bool
  /-- Whether an exponent that is not negative has a sign. -/
  plus : Bool
  /-- The decimal exponents that are written positionally, the upper end excluded. Absent: all. -/
  positional : Option (Int × Int)

namespace Layout

def positionalChars (l : Layout) (digits : List Char) (exponent : Int) : List Char :=
  let size : Int := digits.length
  if 0 ≤ exponent then
    digits ++ List.replicate exponent.toNat '0' ++ (if l.pointed then ['.', '0'] else [])
  else if 0 < size + exponent then
    let whole := (size + exponent).toNat
    digits.take whole ++ '.' :: digits.drop whole
  else
    '0' :: '.' :: (List.replicate (-(size + exponent)).toNat '0' ++ digits)

def scientificChars (l : Layout) (digits : List Char) (exponent : Int) : List Char :=
  let mantissa :=
    match digits with
    | first :: second :: rest => first :: '.' :: second :: rest
    | digits => digits
  let sign := if exponent < 0 then ['-'] else if l.plus then ['+'] else []
  mantissa ++ 'e' :: sign ++ Nat.toDigits 10 exponent.natAbs

def decimalChars (l : Layout) (d : Decimal) : List Char :=
  let digits := Nat.toDigits 10 d.digits
  if d.digits = 0 then
    l.positionalChars digits 0
  else
    let leading := digits.length - 1 + d.exponent
    match l.positional with
    | some (low, high) =>
      if low ≤ leading ∧ leading < high then
        l.positionalChars digits d.exponent
      else
        l.scientificChars digits leading
    | none => l.positionalChars digits d.exponent

def chars (l : Layout) {f : Format} (x : Finite f) : List Char :=
  let body := l.decimalChars (x.shortest l.tie)
  if x.negative then '-' :: body else body

def write (l : Layout) {f : Format} (x : Finite f) : String := .ofList (l.chars x)

/-- How numbers are written in messages to people. -/
def plain : Layout where
  tie := .up
  pointed := false
  plus := false
  positional := none

end Layout

def Finite.plainText {f : Format} (x : Finite f) : String := Layout.plain.write x

def Binary.plainText {f : Format} : Binary f → String
  | .finite x => x.plainText
  | .infinite negative => if negative then "-inf" else "inf"
  | .nan => "NaN"

end Counterpart.Numeric
