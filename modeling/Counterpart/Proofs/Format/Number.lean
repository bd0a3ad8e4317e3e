import Mathlib.Algebra.Order.Field.Basic
import Counterpart.Proofs.Numeric.Value

/-!
This module contains that the stored form of a finite number is exactly that number. It is an integer
below `9 * 10 ^ 15`, where the conversion to 64 bits gives the integer itself, and a double elsewhere.
Reading a stored number and storing it again changes nothing.
-/

namespace Counterpart

open Numeric

namespace Numeric.Finite

variable {f : Format} {x y : Finite f}

theorem natAbs_units (x : Finite f) : x.units.natAbs = x.magnitude := by
  unfold units
  split
  . rw [Int.natAbs_neg, Int.natAbs_natCast]
  . rw [Int.natAbs_natCast]

theorem isIntegral_iff : x.isIntegral = true ↔ ∃ i : Int, x.toRat = i := by
  constructor
  . intro h
    exact ⟨x.truncate, toRat_eq_cast_iff.2 (truncate_mul_one h).symm⟩
  . rintro ⟨i, hi⟩
    unfold isIntegral
    rw [← natAbs_units, toRat_eq_cast_iff.1 hi, Int.natAbs_mul, Int.natAbs_natCast]
    rw [Nat.mul_mod_left, beq_self_eq_true]

theorem abs_toRat_lt_iff {n : Nat} : |x.toRat| < n ↔ x.magnitude < n * one := by
  have habs : |x.toRat| = (x.magnitude : ℚ) / one := by
    unfold toRat
    rw [abs_div, abs_of_pos cast_one_pos, ← natAbs_units, Nat.cast_natAbs, Int.cast_abs]
  rw [habs, div_lt_iff₀ cast_one_pos]
  exact_mod_cast Iff.rfl

theorem truncate_congr (h : x.units = y.units) (hx : x.isIntegral = true) (hy : y.isIntegral = true)
    : x.truncate = y.truncate := by
  apply Int.eq_of_mul_eq_mul_right (a := one)
  . exact_mod_cast one_pos.ne'
  . rw [truncate_mul_one hx, truncate_mul_one hy, h]

theorem natAbs_truncate_lt {n : Nat} (h : x.magnitude < n * one) : x.truncate.natAbs < n := by
  rw [natAbs_truncate]
  exact Nat.div_lt_of_lt_mul (by rwa [Nat.mul_comm] at h)

/-- Whether a number is an integer that is stored as such. -/
def IsModerate (x : Finite f) : Prop := (∃ i : Int, x.toRat = i) ∧ |x.toRat| < 9000000000000000

theorem isModerate_iff
    : x.IsModerate ↔ x.isIntegral = true ∧ x.magnitude < 9000000000000000 * one := by
  unfold IsModerate
  rw [isIntegral_iff, ← abs_toRat_lt_iff, Nat.cast_ofNat]

theorem toInt_ofIntClamp_truncate (h : x.magnitude < 9000000000000000 * one)
    : (Int64.ofIntClamp x.truncate).toInt = x.truncate := by
  have hsmall := natAbs_truncate_lt h
  apply Int64.toInt_ofIntClamp
  . rw [Int64.toInt_minValue]
    omega
  . rw [Int64.toInt_maxValue]
    omega

end Numeric.Finite

namespace Number

variable {x y : Finite double} {i : Int} {isWord : IsWord i}

theorem ofDouble_of_isModerate (h : x.IsModerate)
    : ∃ isWord, ofDouble x = .int x.truncate isWord := by
  rw [Finite.isModerate_iff] at h
  have hword : IsWord x.truncate := by
    have hsmall := Finite.natAbs_truncate_lt h.2
    unfold IsWord
    omega
  refine ⟨hword, ?_⟩
  unfold ofDouble
  rw [dif_pos ⟨h, hword⟩]

theorem ofDouble_of_not_isModerate (h : ¬ x.IsModerate) : ofDouble x = .float x := by
  rw [Finite.isModerate_iff] at h
  unfold ofDouble
  rw [dif_neg fun hall => h hall.1]

theorem exists_ofDouble_eq_int_iff
    : (∃ i isWord, ofDouble x = .int i isWord) ↔ x.IsModerate := by
  by_cases h : x.IsModerate
  . rcases ofDouble_of_isModerate h with ⟨isWord, heq⟩
    exact iff_of_true ⟨_, isWord, heq⟩ h
  . rw [ofDouble_of_not_isModerate h]
    simp [h]

theorem ofDouble_eq_float_iff : ofDouble x = .float x ↔ ¬ x.IsModerate := by
  by_cases h : x.IsModerate
  . rcases ofDouble_of_isModerate h with ⟨isWord, heq⟩
    rw [heq]
    simp [h]
  . exact iff_of_true (ofDouble_of_not_isModerate h) h

theorem eq_of_ofDouble_eq_int (h : ofDouble x = .int i isWord)
    : i = (Int64.ofIntClamp x.truncate).toInt ∧ x.toRat = i := by
  have hmoderate := exists_ofDouble_eq_int_iff.1 ⟨i, isWord, h⟩
  rcases ofDouble_of_isModerate hmoderate with ⟨_, heq⟩
  rw [heq] at h
  cases h
  rw [Finite.isModerate_iff] at hmoderate
  refine ⟨(Finite.toInt_ofIntClamp_truncate hmoderate.2).symm, ?_⟩
  exact Finite.toRat_eq_cast_iff.2 (Finite.truncate_mul_one hmoderate.1).symm

theorem ofDouble_congr (h : x.toRat = y.toRat) (hx : x.IsModerate) : ofDouble x = ofDouble y := by
  have hy : y.IsModerate := by
    unfold Finite.IsModerate at hx ⊢
    rwa [← h]
  rcases ofDouble_of_isModerate hx with ⟨isWordX, heqX⟩
  rcases ofDouble_of_isModerate hy with ⟨isWordY, heqY⟩
  rw [heqX, heqY, int.injEq]
  exact Finite.truncate_congr (Finite.toRat_inj_iff.1 h) (Finite.isModerate_iff.1 hx).1
    (Finite.isModerate_iff.1 hy).1

theorem toRat_toDouble_ofDouble (x : Finite double) : (ofDouble x).toDouble.toRat = x.toRat :=
  Finite.toRat_inj_iff.2 (units_toDouble_ofDouble x)

theorem ofDouble_toDouble_ofDouble (x : Finite double)
    : ofDouble (ofDouble x).toDouble = ofDouble x := by
  by_cases h : x.IsModerate
  . exact (ofDouble_congr (toRat_toDouble_ofDouble x).symm h).symm
  . rw [ofDouble_of_not_isModerate h]
    exact ofDouble_of_not_isModerate h

end Number

/-- A finite number is stored as a number that denotes the same rational: as an integer, which it is
converted to without loss, exactly if it is one and lies below `9 * 10 ^ 15`, and as it is exactly if
not. What is read back is equal to it and is stored in the same form. -/
theorem storedNumber_exact (x : Finite double)
    : ∃ n : Number,
        Json.storedNumber (.finite x) = .number n
          ∧ n.toRat = x.toRat
          ∧ ((∃ i isWord, n = .int i isWord)
            ↔ (∃ i : Int, x.toRat = i) ∧ |x.toRat| < 9000000000000000)
          ∧ (n = .float x ↔ ¬ ((∃ i : Int, x.toRat = i) ∧ |x.toRat| < 9000000000000000))
          ∧ (∀ i isWord, n = .int i isWord →
            i = (Int64.ofIntClamp x.truncate).toInt ∧ x.toRat = i)
          ∧ ∃ y : Finite double,
            Json.asNumber? (.number n) = some y
              ∧ y.toRat = x.toRat
              ∧ Json.storedNumber (.finite y) = .number n := by
  refine ⟨.ofDouble x, rfl, Number.toRat_ofDouble x, Number.exists_ofDouble_eq_int_iff,
    Number.ofDouble_eq_float_iff, ?_, (Number.ofDouble x).toDouble, rfl,
    Number.toRat_toDouble_ofDouble x, ?_⟩
  . intro i isWord h
    exact Number.eq_of_ofDouble_eq_int h
  . rw [Json.storedNumber, Number.ofDouble_toDouble_ofDouble]

theorem storedNumber_exact_limit
    : let least : Finite double := .ofInt _ (-8999999999999999)
      let limit : Finite double := .ofInt _ 9000000000000000
      (∃ isWord, Json.storedNumber (.finite least) = .number (.int (-8999999999999999) isWord))
        ∧ Json.storedNumber (.finite limit) = .number (.float limit) := by
  intro least limit
  have hleast : least.toRat = (-8999999999999999 : Int) :=
    Finite.toRat_eq_cast_iff.2 (by decide +kernel)
  have hlimit : limit.toRat = (9000000000000000 : Int) :=
    Finite.toRat_eq_cast_iff.2 (by decide +kernel)
  constructor
  . rcases storedNumber_exact least with ⟨n, hstored, _, hint, _, hloss, _⟩
    rcases hint.2 ⟨⟨_, hleast⟩, by rw [hleast]; norm_num⟩ with ⟨i, isWord, hn⟩
    have hi := (hloss i isWord hn).2
    rw [hleast, Int.cast_inj] at hi
    subst hi
    exact ⟨isWord, hn ▸ hstored⟩
  . rcases storedNumber_exact limit with ⟨n, hstored, _, _, hfloat, _⟩
    rw [hstored, hfloat.2]
    rintro ⟨_, hlt⟩
    rw [hlimit] at hlt
    norm_num at hlt

end Counterpart
