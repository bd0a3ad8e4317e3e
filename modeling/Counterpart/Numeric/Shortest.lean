import Counterpart.Numeric.Decimal

/-!
This module contains the shortest decimal form of a binary number: the fewest digits that read back
as the same number, and among those the nearest to it.
-/

namespace Counterpart.Numeric

/-- Which of two equally near decimals stands for a number between them. -/
inductive Tie where
  | even
  | up
  deriving DecidableEq, Repr

namespace Decimal

def trim (d : Decimal) : Decimal :=
  if h : d.digits ≠ 0 ∧ d.digits % 10 = 0 then
    trim ⟨d.digits / 10, d.exponent + 1⟩
  else
    d
termination_by d.digits
decreasing_by
  exact Nat.div_lt_self (Nat.pos_of_ne_zero h.1) (by decide)

end Decimal

namespace Finite

variable {f : Format}

/-- Digits of the exact decimal expansion, which has `unitBits` places. -/
def expansion (x : Finite f) : Nat := x.magnitude * Nat.pow 5 unitBits

def exact (x : Finite f) : Decimal := ⟨x.expansion, -unitBits⟩

/-- Whether `d * 10 ^ cut` units of the expansion round to the number's magnitude. -/
def readsBack (x : Finite f) (d cut : Nat) : Bool :=
  f.roundUnits (d * Nat.pow 10 cut) (Nat.pow 5 unitBits) == x.magnitude

/-- The decimal that keeps all but `cut` digits of the expansion and reads back, if there is one:
the nearer of the two neighbours that do. -/
def cutAt (tie : Tie) (x : Finite f) (cut : Nat) : Option Decimal :=
  let step := Nat.pow 10 cut
  let low := x.expansion / step
  let rest := x.expansion % step
  let exponent : Int := cut - unitBits
  match x.readsBack low cut, x.readsBack (low + 1) cut with
  | true, true =>
    let takesLow : Bool :=
      if 2 * rest = step then
        tie = .even && low % 2 == 0
      else
        2 * rest < step
    some ⟨if takesLow then low else low + 1, exponent⟩
  | true, false => some ⟨low, exponent⟩
  | false, true => some ⟨low + 1, exponent⟩
  | false, false => none

/-- The fewest digits that read back as the number, the nearest of those. -/
def shortest (tie : Tie) (x : Finite f) : Decimal :=
  if x.magnitude = 0 then
    ⟨0, 0⟩
  else
    let size := width x.expansion
    let found := (List.range f.digits).findSome? fun n => x.cutAt tie (size - (n + 1))
    (found.getD x.exact).trim

end Finite

end Counterpart.Numeric
