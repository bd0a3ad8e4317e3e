import Counterpart.Field.Bounds
import Counterpart.Format.Scalar

/-!
This module contains that storing a number does not change it. A magnitude of a format is its own
rounding, so an integral number is the double nearest to its integer part, and the stored form of a
number, be it an integer or a double, reads as the number.
-/

namespace Counterpart

namespace Numeric

variable {f : Format} {units : Nat}

theorem one_pos : 0 < one := by
  unfold one
  apply Nat.two_pow_pos

theorem Format.roundUnits_of_holds (h : f.Holds units) : f.roundUnits units 1 = units := by
  have hpos : 0 < Nat.pow 2 (f.spacing units) := Nat.two_pow_pos _
  rcases h.2 with ⟨n, hn⟩
  unfold roundUnits
  dsimp only
  rw [Nat.div_one, Nat.one_mul]
  generalize Nat.pow 2 (f.spacing units) = step at hpos hn
  rw [hn, Nat.mul_comm step n, roundDiv_mul_right n hpos]

namespace Finite

theorem nearest_of_holds (h : f.Holds units) (negative : Bool)
    : nearest f negative units 1 = ⟨negative, units, h⟩ := by
  unfold nearest
  simp only [Format.roundUnits_of_holds h]
  rw [dif_pos h.1]

theorem natAbs_truncate (x : Finite f) : x.truncate.natAbs = x.magnitude / one := by
  unfold truncate
  dsimp only
  split
  . rw [Int.natAbs_neg, Int.natAbs_natCast]
  . rw [Int.natAbs_natCast]

theorem natAbs_truncate_mul_one {x : Finite f} (h : x.isIntegral = true)
    : x.truncate.natAbs * one = x.magnitude := by
  have hdvd : one ∣ x.magnitude := Nat.dvd_of_mod_eq_zero (by simpa [isIntegral] using h)
  rw [natAbs_truncate, Nat.div_mul_cancel hdvd]

theorem truncate_neg_iff {x : Finite f} (h : x.truncate.natAbs ≠ 0)
    : x.truncate < 0 ↔ x.negative = true := by
  rw [natAbs_truncate] at h
  unfold truncate
  dsimp only
  generalize x.magnitude / one = whole at h ⊢
  split
  . next hneg =>
    rw [iff_true_right hneg]
    omega
  . next hneg =>
    rw [iff_false_right hneg]
    omega

theorem units_ofInt_truncate {x : Finite f} (h : x.isIntegral = true)
    : (ofInt f x.truncate).units = x.units := by
  have hmul := natAbs_truncate_mul_one h
  unfold ofInt
  rw [hmul, nearest_of_holds x.holds]
  unfold units
  by_cases hzero : x.truncate.natAbs = 0
  . rw [hzero, Nat.zero_mul] at hmul
    simp [← hmul]
  . simp only [truncate_neg_iff hzero, decide_eq_true_eq]

end Finite

end Numeric

open Numeric

theorem Number.units_toDouble_ofDouble (x : Finite double)
    : (ofDouble x).toDouble.units = x.units := by
  unfold ofDouble
  split
  . next h => exact Finite.units_ofInt_truncate h.1.1
  . rfl

theorem Bounds.contains_congr {x y : Finite double} (h : x.units = y.units) (b : Bounds)
    : b.contains (.finite x) = b.contains (.finite y) := by
  have hle (z : Double) : z.le (.finite x) = z.le (.finite y) := by
    cases z with
    | finite z => simp [Binary.le, Finite.le, h]
    | infinite negative => rfl
    | nan => rfl
  have hge (z : Double) : Binary.le (.finite x) z = Binary.le (.finite y) z := by
    cases z with
    | finite z => simp [Binary.le, Finite.le, h]
    | infinite negative => rfl
    | nan => rfl
  unfold contains
  simp only [hle, hge]

end Counterpart
