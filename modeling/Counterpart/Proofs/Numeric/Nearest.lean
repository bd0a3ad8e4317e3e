import Counterpart.Json.Basic
import Counterpart.Proofs.Numeric.Stored

/-!
This module contains that rounding goes past no number of the format: what lies below such a number is
rounded to one below it or to it, and what lies above it to one above it or to it. A value is moved by at
most half a step of its grid.
-/

namespace Counterpart.Numeric

variable {num den k : Nat}

theorem roundDiv_le_of_le (h : num ≤ k * den) (hden : 0 < den) : roundDiv num den ≤ k := by
  by_cases hlow : num / den < k
  . have := roundDiv_le num den
    omega
  . have hk : k * den ≤ num := (Nat.le_div_iff_mul_le hden).1 (Nat.le_of_not_lt hlow)
    apply Nat.le_of_eq
    rw [Nat.le_antisymm h hk, roundDiv_mul_right k hden]

theorem le_roundDiv_of_le (h : k * den ≤ num) (hden : 0 < den) : k ≤ roundDiv num den :=
  Nat.le_trans ((Nat.le_div_iff_mul_le hden).2 h) (le_roundDiv num den)

theorem roundDiv_cases (num den : Nat)
    : (roundDiv num den = num / den ∧ 2 * (num % den) ≤ den)
        ∨ (roundDiv num den = num / den + 1 ∧ den ≤ 2 * (num % den)) := by
  unfold roundDiv
  dsimp only
  split
  . omega
  . split
    . omega
    . split <;> omega

theorem roundDiv_mul_near (num : Nat) (hden : 0 < den)
    : 2 * (roundDiv num den * den) ≤ 2 * num + den
        ∧ 2 * num ≤ 2 * (roundDiv num den * den) + den := by
  have hsplit := Nat.div_add_mod' num den
  have hrest := Nat.mod_lt num hden
  have hup : (num / den + 1) * den = num / den * den + den := Nat.succ_mul _ _
  rcases roundDiv_cases num den with ⟨hlow, hhalf⟩ | ⟨hhigh, hhalf⟩
  . rw [hlow]
    omega
  . rw [hhigh, hup]
    omega

namespace Format

variable {f : Format} {m q : Nat}

theorem spacing_le_spacing (h : m ≤ q) : f.spacing m ≤ f.spacing q := by
  by_cases hm : m = 0
  . unfold spacing
    rw [hm, Nat.log2_zero]
    have := f.precision_pos
    omega
  . have hlog : m.log2 ≤ q.log2 := by
      rw [Nat.le_log2 (by omega)]
      exact Nat.le_trans (Nat.log2_self_le hm) h
    unfold spacing
    omega

/-- Between a number of the format and a value above it there is a point of the value's grid. -/
theorem exists_grid_point (hm : f.Holds m) (h : m ≤ q)
    : ∃ p, m ≤ p ∧ p ≤ q ∧ Nat.pow 2 (f.spacing q) ∣ p := by
  by_cases hspacing : f.spacing q ≤ f.spacing m
  . exact ⟨m, Nat.le_refl m, h, Nat.dvd_trans (Nat.pow_dvd_pow 2 hspacing) hm.2⟩
  . -- The grid becomes wider between the two, and it does so at a power of two.
    have hpos := f.precision_pos
    unfold spacing at hspacing
    have hlog : m.log2 < q.log2 := by omega
    have hq : q ≠ 0 := by
      rintro rfl
      rw [Nat.log2_zero] at hlog
      omega
    refine ⟨2 ^ q.log2, ?_, Nat.log2_self_le hq, ?_⟩
    . by_cases hm0 : m = 0
      . rw [hm0]
        exact Nat.zero_le _
      . exact Nat.le_of_lt ((Nat.log2_lt hm0).1 hlog)
    . apply Nat.pow_dvd_pow
      unfold spacing
      omega

theorem roundUnits_le (hm : f.Holds m) (h : num ≤ m * den) (hden : 0 < den)
    : f.roundUnits num den ≤ m := by
  have hle : num / den ≤ m := Nat.div_le_of_le_mul (by rwa [Nat.mul_comm] at h)
  have hdvd := Nat.dvd_trans (Nat.pow_dvd_pow 2 (f.spacing_le_spacing hle)) hm.2
  have hstep : 0 < Nat.pow 2 (f.spacing (num / den)) := Nat.two_pow_pos _
  unfold roundUnits
  dsimp only
  simp only [Nat.pow_eq] at hdvd hstep ⊢
  generalize 2 ^ f.spacing (num / den) = step at hdvd hstep
  rcases hdvd with ⟨k, rfl⟩
  rw [Nat.mul_comm step k]
  apply Nat.mul_le_mul_right
  apply roundDiv_le_of_le
  . calc
      num ≤ step * k * den := h
      _ = k * (den * step) := by ac_rfl
  . exact Nat.mul_pos hden hstep

theorem le_roundUnits (hm : f.Holds m) (h : m * den ≤ num) (hden : 0 < den)
    : m ≤ f.roundUnits num den := by
  have hle : m ≤ num / den := (Nat.le_div_iff_mul_le hden).2 h
  rcases exists_grid_point hm hle with ⟨p, hmp, hpq, hdvd⟩
  have hp : p * den ≤ num := (Nat.le_div_iff_mul_le hden).1 hpq
  have hstep : 0 < Nat.pow 2 (f.spacing (num / den)) := Nat.two_pow_pos _
  apply Nat.le_trans hmp
  unfold roundUnits
  dsimp only
  generalize Nat.pow 2 (f.spacing (num / den)) = step at hdvd hstep
  rcases hdvd with ⟨k, rfl⟩
  rw [Nat.mul_comm step k]
  apply Nat.mul_le_mul_right
  apply le_roundDiv_of_le
  . calc
      k * (den * step) = step * k * den := by ac_rfl
      _ ≤ num := hp
  . exact Nat.mul_pos hden hstep

theorem roundUnits_near (f : Format) (num : Nat)
    : 2 * f.roundUnits num 1 ≤ 2 * num + Nat.pow 2 (f.spacing num)
        ∧ 2 * num ≤ 2 * f.roundUnits num 1 + Nat.pow 2 (f.spacing num) := by
  unfold roundUnits
  dsimp only
  rw [Nat.div_one, Nat.one_mul]
  apply roundDiv_mul_near
  apply Nat.two_pow_pos

theorem le_largest (hm : f.Holds m) : m ≤ f.largest := by
  have hpos := f.precision_pos
  have hfits := f.fits
  have htop : m ≤ 2 ^ f.limit - 1 := by
    have := hm.1
    simp only [Nat.pow_eq] at this
    omega
  -- The largest magnitude is the last point of the grid just below the limit.
  rcases exists_grid_point hm htop with ⟨p, hmp, hp, hdvd⟩
  have hlimit : 1 < 2 ^ f.limit := Nat.one_lt_two_pow (by omega)
  have hhalf : 2 ^ f.limit = 2 * 2 ^ (f.limit - 1) := by
    rw [← Nat.pow_succ']
    congr 1
    omega
  have hlog : f.limit - 1 ≤ (2 ^ f.limit - 1).log2 := by
    rw [Nat.le_log2 (by omega)]
    omega
  have hspacing : f.limit - f.precision ≤ f.spacing (2 ^ f.limit - 1) := by
    unfold spacing
    omega
  rcases Nat.dvd_trans (Nat.pow_dvd_pow 2 hspacing) hdvd with ⟨k, rfl⟩
  have hsplit : 2 ^ f.limit = 2 ^ (f.limit - f.precision) * 2 ^ f.precision := by
    rw [← Nat.pow_add]
    congr 1
    omega
  have hk : k < 2 ^ f.precision := by
    apply Nat.lt_of_mul_lt_mul_left (a := 2 ^ (f.limit - f.precision))
    rw [← hsplit]
    omega
  calc
    m ≤ 2 ^ (f.limit - f.precision) * k := hmp
    _ = k * 2 ^ (f.limit - f.precision) := Nat.mul_comm _ _
    _ ≤ f.largest := Nat.mul_le_mul_right _ (Nat.le_sub_one_of_lt hk)

end Format

namespace Finite

variable {f : Format} {negative : Bool} {x : Finite f} {n : Int}

theorem magnitude_nearest_le (h : num ≤ x.magnitude * den) (hden : 0 < den)
    : (nearest f negative num den).magnitude ≤ x.magnitude := by
  have hround := Format.roundUnits_le x.holds h hden
  unfold nearest
  rw [dif_pos (Nat.lt_of_le_of_lt hround x.holds.1)]
  exact hround

theorem le_magnitude_nearest (h : x.magnitude * den ≤ num) (hden : 0 < den)
    : x.magnitude ≤ (nearest f negative num den).magnitude := by
  unfold nearest
  split
  . exact Format.le_roundUnits x.holds h hden
  . exact Format.le_largest x.holds

theorem negative_nearest : (nearest f negative num den).negative = negative := by
  unfold nearest
  split
  . rfl
  . rfl

theorem units_ofInt (f : Format) (n : Int)
    : (ofInt f n).units
        =
      if n < 0 then -((ofInt f n).magnitude : Int) else (ofInt f n).magnitude := by
  unfold units
  unfold ofInt
  rw [negative_nearest]
  simp only [decide_eq_true_eq]

theorem mul_one_eq (n : Int)
    : n * one = if n < 0 then -((n.natAbs * one : Nat) : Int) else (n.natAbs * one : Nat) := by
  rw [Int.natCast_mul]
  split
  . rw [Int.ofNat_natAbs_of_nonpos (by omega), Int.neg_mul, Int.neg_neg]
  . rw [Int.natAbs_of_nonneg (by omega)]

theorem units_ofInt_same_side (f : Format) (n : Int) (x : Finite f)
    : (n * one ≤ x.units → (ofInt f n).units ≤ x.units)
        ∧ (x.units ≤ n * one → x.units ≤ (ofInt f n).units) := by
  have hle (h : n.natAbs * one ≤ x.magnitude) : (ofInt f n).magnitude ≤ x.magnitude :=
    magnitude_nearest_le (by rwa [Nat.mul_one]) Nat.one_pos
  have hge (h : x.magnitude ≤ n.natAbs * one) : x.magnitude ≤ (ofInt f n).magnitude :=
    le_magnitude_nearest (by rwa [Nat.mul_one]) Nat.one_pos
  rw [mul_one_eq, units_ofInt]
  unfold units
  generalize n.natAbs * one = size at hle hge
  -- Numbers of one sign are compared by magnitude, others by sign alone.
  by_cases hn : n < 0
  . rw [if_pos hn, if_pos hn]
    cases x.negative with
    | true =>
      rw [if_pos rfl]
      omega
    | false =>
      rw [if_neg Bool.false_ne_true]
      omega
  . rw [if_neg hn, if_neg hn]
    cases x.negative with
    | true =>
      rw [if_pos rfl]
      omega
    | false =>
      rw [if_neg Bool.false_ne_true]
      omega

theorem magnitude_ofInt (h : IsWord n)
    : (ofInt double n).magnitude = double.roundUnits (n.natAbs * one) 1 := by
  have htop : double.Holds (0x10000000000000000 * one) := by decide +kernel
  have hsize : n.natAbs * one ≤ 0x10000000000000000 * one := by
    apply Nat.mul_le_mul_right
    unfold IsWord at h
    omega
  have hround : double.roundUnits (n.natAbs * one) 1 ≤ 0x10000000000000000 * one := by
    apply Format.roundUnits_le htop _ Nat.one_pos
    rwa [Nat.mul_one]
  unfold ofInt nearest
  rw [dif_pos (Nat.lt_of_le_of_lt hround htop.1)]

theorem spacing_le_of_isWord (h : IsWord n)
    : Nat.pow 2 (double.spacing (n.natAbs * one)) ≤ 2048 * one := by
  have hsize : n.natAbs * one ≤ 0xFFFFFFFFFFFFFFFF * one := by
    apply Nat.mul_le_mul_right
    unfold IsWord at h
    omega
  have hspacing : double.spacing (0xFFFFFFFFFFFFFFFF * one) = 1085 := by decide +kernel
  calc
    Nat.pow 2 (double.spacing (n.natAbs * one)) ≤ Nat.pow 2 1085 := by
      apply Nat.pow_le_pow_right (by decide)
      rw [← hspacing]
      exact Format.spacing_le_spacing hsize
    _ = 2048 * one := by decide +kernel

theorem units_ofInt_near (h : IsWord n)
    : (ofInt double n).units ≤ n * one + 1024 * one
        ∧ n * one ≤ (ofInt double n).units + 1024 * one := by
  have hstep := spacing_le_of_isWord h
  have hnear := double.roundUnits_near (n.natAbs * one)
  rw [mul_one_eq, units_ofInt, magnitude_ofInt h]
  split
  . omega
  . omega

end Finite

end Counterpart.Numeric
