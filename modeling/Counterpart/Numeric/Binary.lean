import Counterpart.Numeric.Rounding

/-!
This module contains binary floating-point numbers as exact values. A finite number is a sign and a
magnitude counted in units of `2 ^ -unitBits`, the smallest quantum of the widest format in use, so
that comparing, adding and rounding are operations on integers. `Finite.nearest` is the one place
where a value is rounded.
-/

namespace Counterpart.Numeric

/-- The one exponent that magnitudes are counted in: a unit is `2 ^ -unitBits`. -/
def unitBits : Nat := 1074

structure Format where
  /-- Bits of a significand. -/
  precision : Nat
  /-- The finest quantum is `2 ^ finest` units. -/
  finest : Nat
  /-- All finite magnitudes lie below `2 ^ limit` units. -/
  limit : Nat
  /-- Decimal digits that tell any two numbers of the format apart. -/
  digits : Nat
  precision_pos : 0 < precision := by decide
  fits : precision + finest ≤ limit := by decide

def double : Format where
  precision := 53
  finest := 0
  limit := 2098
  digits := 17

def single : Format where
  precision := 24
  finest := 925
  limit := 1202
  digits := 9

/-- The number one, in units. -/
def one : Nat := Nat.pow 2 unitBits

namespace Format

variable (f : Format)

/-- The magnitude `units` lies on a grid of `2 ^ f.spacing units` units. -/
def spacing (units : Nat) : Nat :=
  max f.finest (units.log2 + 1 - f.precision)

def Holds (units : Nat) : Prop :=
  units < Nat.pow 2 f.limit ∧ Nat.pow 2 (f.spacing units) ∣ units

instance (units : Nat) : Decidable (f.Holds units) :=
  inferInstanceAs (Decidable (_ ∧ _))

def largest : Nat :=
  (Nat.pow 2 f.precision - 1) * Nat.pow 2 (f.limit - f.precision)

/-- Rounds `num / den` units to the grid, as if the format had no limit. -/
def roundUnits (num den : Nat) : Nat :=
  let step := Nat.pow 2 (f.spacing (num / den))
  roundDiv num (den * step) * step

theorem holds_zero : f.Holds 0 := by
  refine ⟨Nat.two_pow_pos _, Nat.dvd_zero _⟩

theorem spacing_dvd {n k : Nat} (hn : n ≤ Nat.pow 2 f.precision) (hk : f.finest ≤ k) :
    Nat.pow 2 (f.spacing (n * Nat.pow 2 k)) ∣ n * Nat.pow 2 k := by
  simp only [Nat.pow_eq] at hn ⊢
  by_cases h0 : n = 0
  . simp [h0]
  . by_cases hlt : n < 2 ^ f.precision
    . have hlog : (n * 2 ^ k).log2 < f.precision + k := by
        rw [Nat.log2_lt (Nat.mul_ne_zero h0 (Nat.ne_of_gt (Nat.two_pow_pos k)))]
        rw [Nat.pow_add]
        exact Nat.mul_lt_mul_of_pos_right hlt (Nat.two_pow_pos k)
      have hs : f.spacing (n * 2 ^ k) ≤ k := by
        unfold spacing
        omega
      exact Nat.dvd_mul_left_of_dvd (Nat.pow_dvd_pow 2 hs) n
    . have hn : n = 2 ^ f.precision := by omega
      subst hn
      rw [← Nat.pow_add]
      apply Nat.pow_dvd_pow
      have hpos := f.precision_pos
      unfold spacing
      rw [Nat.log2_two_pow]
      omega

theorem holds_largest : f.Holds f.largest := by
  have hfits := f.fits
  have hone := Nat.two_pow_pos f.precision
  constructor
  . simp only [largest, Nat.pow_eq]
    have hsplit : 2 ^ f.limit = 2 ^ f.precision * 2 ^ (f.limit - f.precision) := by
      rw [← Nat.pow_add]
      congr 1
      omega
    rw [hsplit]
    exact Nat.mul_lt_mul_of_pos_right (by omega) (Nat.two_pow_pos _)
  . refine f.spacing_dvd ?_ (by omega)
    simp only [Nat.pow_eq]
    omega

theorem spacing_roundUnits_dvd (num den : Nat) :
    Nat.pow 2 (f.spacing (f.roundUnits num den)) ∣ f.roundUnits num den := by
  unfold roundUnits
  dsimp only
  apply f.spacing_dvd
  . refine Nat.le_trans (roundDiv_le _ _) ?_
    rw [← Nat.div_div_eq_div_mul]
    simp only [Nat.pow_eq]
    have hlt : num / den < 2 ^ (f.precision + f.spacing (num / den)) := by
      by_cases h0 : num / den = 0
      . rw [h0]
        exact Nat.two_pow_pos _
      . rw [← Nat.log2_lt h0]
        have hpos := f.precision_pos
        unfold spacing
        omega
    have := (Nat.div_lt_iff_lt_mul (Nat.two_pow_pos (f.spacing (num / den)))).2
      (by rw [← Nat.pow_add]; exact hlt : num / den < 2 ^ f.precision * 2 ^ f.spacing (num / den))
    omega
  . unfold spacing
    omega

end Format

/-- A sign and a magnitude in units. Zero has both signs. -/
structure Finite (f : Format) where
  negative : Bool
  magnitude : Nat
  holds : f.Holds magnitude
  deriving DecidableEq

namespace Finite

variable {f : Format}

def units (x : Finite f) : Int :=
  if x.negative then -x.magnitude else x.magnitude

def zero : Finite f := ⟨false, 0, f.holds_zero⟩

/-- The finite number nearest to `num / den` units with the given sign, of two nearest ones the
even one; a value beyond the largest number gives the largest. -/
def nearest (f : Format) (negative : Bool) (num den : Nat) : Finite f :=
  if h : f.roundUnits num den < Nat.pow 2 f.limit then
    ⟨negative, f.roundUnits num den, h, f.spacing_roundUnits_dvd num den⟩
  else
    ⟨negative, f.largest, f.holds_largest⟩

def ofUnits (f : Format) (units : Int) : Finite f :=
  nearest f (units < 0) units.natAbs 1

def ofInt (f : Format) (n : Int) : Finite f :=
  nearest f (n < 0) (n.natAbs * one) 1

def le (x y : Finite f) : Bool := x.units ≤ y.units

def lt (x y : Finite f) : Bool := x.units < y.units

def add (x y : Finite f) : Finite f := ofUnits f (x.units + y.units)

def sub (x y : Finite f) : Finite f := ofUnits f (x.units - y.units)

def mul (x y : Finite f) : Finite f :=
  nearest f (x.negative != y.negative) (x.magnitude * y.magnitude) one

def div (x y : Finite f) : Finite f :=
  nearest f (x.negative != y.negative) (x.magnitude * one) y.magnitude

def convert (g : Format) (x : Finite f) : Finite g :=
  nearest g x.negative x.magnitude 1

def isIntegral (x : Finite f) : Bool := x.magnitude % one == 0

def truncate (x : Finite f) : Int :=
  let whole := x.magnitude / one
  if x.negative then -whole else whole

end Finite

inductive Binary (f : Format) where
  | finite (x : Finite f)
  | infinite (negative : Bool)
  | nan
  deriving DecidableEq

abbrev Double := Binary double
abbrev Single := Binary single

namespace Binary

variable {f : Format}

def round (f : Format) (negative : Bool) (num den : Nat) : Binary f :=
  if f.roundUnits num den < Nat.pow 2 f.limit then
    .finite (.nearest f negative num den)
  else
    .infinite negative

def finite? : Binary f → Option (Finite f)
  | .finite x => some x
  | _ => none

def le : Binary f → Binary f → Bool
  -- A value that is no number is not below anything.
  | .nan, _ => false
  | _, .nan => false
  | .infinite m, .infinite n => m || !n
  | .infinite m, .finite _ => m
  | .finite _, .infinite n => !n
  | .finite x, .finite y => x.le y

def lt (x y : Binary f) : Bool := x.le y && !y.le x

/-- The two zeros agree, and a value that is no number differs from itself. -/
def same (x y : Binary f) : Bool := x.le y && y.le x

def ofInt (f : Format) (n : Int) : Binary f := round f (n < 0) (n.natAbs * one) 1

def product (x y : Finite f) : Binary f :=
  round f (x.negative != y.negative) (x.magnitude * y.magnitude) one

def convert (g : Format) : Binary f → Binary g
  | .finite x => round g x.negative x.magnitude 1
  | .infinite n => .infinite n
  | .nan => .nan

end Binary

end Counterpart.Numeric
