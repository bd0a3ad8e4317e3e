import Mathlib.Algebra.Order.Field.Rat
import Mathlib.Tactic.Linarith
import Counterpart.Proofs.Numeric.Nearest

/-!
This module contains the numbers that finite numbers and JSON numbers denote, as rationals. Storing a
double does not change it. An integer is exactly a double or it is not, and then the nearest double lies
on the same side of every other one.
-/

namespace Counterpart

namespace Numeric.Finite

variable {f : Format} {x y : Finite f} {n : Int}

def toRat (x : Finite f) : ℚ := x.units / one

theorem cast_one_pos : (0 : ℚ) < (one : ℚ) := by
  exact_mod_cast one_pos

theorem toRat_inj_iff : x.toRat = y.toRat ↔ x.units = y.units := by
  unfold toRat
  rw [div_left_inj' cast_one_pos.ne']
  exact Int.cast_inj

theorem toRat_le_toRat_iff : x.toRat ≤ y.toRat ↔ x.units ≤ y.units := by
  unfold toRat
  rw [div_le_div_iff_of_pos_right cast_one_pos]
  exact Int.cast_le

theorem toRat_le_cast_iff : x.toRat ≤ n ↔ x.units ≤ n * one := by
  unfold toRat
  rw [div_le_iff₀ cast_one_pos]
  exact_mod_cast Iff.rfl

theorem cast_le_toRat_iff : n ≤ x.toRat ↔ n * one ≤ x.units := by
  unfold toRat
  rw [le_div_iff₀ cast_one_pos]
  exact_mod_cast Iff.rfl

theorem toRat_eq_cast_iff : x.toRat = n ↔ x.units = n * one := by
  rw [le_antisymm_iff, toRat_le_cast_iff, cast_le_toRat_iff, ← le_antisymm_iff]

theorem truncate_mul_one (h : x.isIntegral = true) : x.truncate * one = x.units := by
  have hdvd : one ∣ x.magnitude := Nat.dvd_of_mod_eq_zero (by simpa [isIntegral] using h)
  unfold truncate units
  dsimp only
  split
  . rw [Int.neg_mul, ← Int.natCast_mul, Nat.div_mul_cancel hdvd]
  . rw [← Int.natCast_mul, Nat.div_mul_cancel hdvd]

end Numeric.Finite

open Numeric

namespace Number

variable {n : Number} {x : Finite double}

def toRat : Number → ℚ
  | .int n _ => n
  | .float x => x.toRat

def IsDouble (n : Number) : Prop := ∃ x : Finite double, x.toRat = n.toRat

theorem toRat_ofDouble (x : Finite double) : (ofDouble x).toRat = x.toRat := by
  unfold ofDouble
  split
  . next h => exact (Finite.toRat_eq_cast_iff.2 (Finite.truncate_mul_one h.1.1).symm).symm
  . rfl

theorem isDouble_ofDouble (x : Finite double) : (ofDouble x).IsDouble := ⟨x, (toRat_ofDouble x).symm⟩

theorem toDouble_le (h : n.toRat ≤ x.toRat) : n.toDouble.toRat ≤ x.toRat := by
  cases n with
  | int n isWord =>
    rw [Finite.toRat_le_toRat_iff]
    exact (Finite.units_ofInt_same_side double n x).1 (Finite.cast_le_toRat_iff.1 h)
  | float y => exact h

theorem le_toDouble (h : x.toRat ≤ n.toRat) : x.toRat ≤ n.toDouble.toRat := by
  cases n with
  | int n isWord =>
    rw [Finite.toRat_le_toRat_iff]
    exact (Finite.units_ofInt_same_side double n x).2 (Finite.toRat_le_cast_iff.1 h)
  | float y => exact h

theorem toRat_toDouble_eq_iff : n.toDouble.toRat = n.toRat ↔ n.IsDouble := by
  constructor
  . intro h
    exact ⟨n.toDouble, h⟩
  . rintro ⟨x, hx⟩
    rw [← hx]
    exact le_antisymm (toDouble_le hx.ge) (le_toDouble hx.le)

theorem abs_toDouble_sub_le (n : Number) : |n.toDouble.toRat - n.toRat| ≤ 1024 := by
  cases n with
  | float x => simp [toDouble, toRat]
  | int n isWord =>
    rcases Finite.units_ofInt_near isWord with ⟨hup, hdown⟩
    rw [← Int.add_mul] at hup
    have hbelow : (n - 1024) * one ≤ (Finite.ofInt double n).units := by
      rw [Int.sub_mul]
      omega
    have hup := Finite.toRat_le_cast_iff.2 hup
    have hdown := Finite.cast_le_toRat_iff.2 hbelow
    push_cast at hup hdown
    unfold toDouble toRat
    rw [abs_le]
    constructor
    . linarith
    . linarith

theorem isDouble_of_natAbs_le {i : Int} {isWord : IsWord i} (h : i.natAbs ≤ Nat.pow 2 53)
    : (int i isWord).IsDouble := by
  have hlimit : i.natAbs * one < Nat.pow 2 double.limit :=
    Nat.lt_of_le_of_lt (Nat.mul_le_mul_right one h) (by decide +kernel)
  have hholds : double.Holds (i.natAbs * one) := by
    refine ⟨hlimit, ?_⟩
    unfold one
    exact double.spacing_dvd h (Nat.zero_le unitBits)
  have hunits : Finite.units ⟨i < 0, i.natAbs * one, hholds⟩ = i * one := by
    rw [Finite.mul_one_eq]
    unfold Finite.units
    simp only [decide_eq_true_eq]
  exact ⟨⟨i < 0, i.natAbs * one, hholds⟩, Finite.toRat_eq_cast_iff.2 hunits⟩

theorem exists_int_of_not_isDouble (h : ¬ n.IsDouble)
    : ∃ i isWord, n = .int i isWord ∧ Nat.pow 2 53 < i.natAbs := by
  cases n with
  | float x => exact absurd ⟨x, rfl⟩ h
  | int i isWord =>
    refine ⟨i, isWord, rfl, ?_⟩
    by_contra hle
    exact h (isDouble_of_natAbs_le (Nat.le_of_not_lt hle))

end Number

end Counterpart
