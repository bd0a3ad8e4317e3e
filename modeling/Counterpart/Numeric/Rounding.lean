/-!
This module contains the rounding of a quotient of natural numbers to the nearest integer, a tie
going to the even neighbour.
-/

namespace Counterpart.Numeric

/-- The integer nearest to `num / den`; halfway between two integers the even one is taken. -/
def roundDiv (num den : Nat) : Nat :=
  let low := num / den
  let rest := num % den
  if 2 * rest < den then
    low
  else if den < 2 * rest then
    low + 1
  else if low % 2 = 0 then
    low
  else
    low + 1

theorem roundDiv_le (num den : Nat) : roundDiv num den ≤ num / den + 1 := by
  unfold roundDiv
  dsimp only
  split
  . omega
  . split
    . omega
    . split <;> omega

theorem le_roundDiv (num den : Nat) : num / den ≤ roundDiv num den := by
  unfold roundDiv
  dsimp only
  split
  . omega
  . split
    . omega
    . split <;> omega

theorem roundDiv_mul_right (n : Nat) {den : Nat} (h : 0 < den) : roundDiv (n * den) den = n := by
  simp [roundDiv, Nat.mul_div_cancel n h, h]

end Counterpart.Numeric
