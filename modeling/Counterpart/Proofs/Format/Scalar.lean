import Counterpart.Format.Scalar
import Counterpart.Proofs.Text.Trim

/-!
This module contains that the text of a value is not blank unless the value is missing: a number is
written with a digit, a point or an exponent, in whatever layout.
-/

namespace Counterpart

open Numeric Text

namespace Text

theorem not_isBlank_of_isDigit {c : Char} (h : c.isDigit = true) : ¬ isBlank c = true := by
  have hrange : 48 ≤ c.toNat ∧ c.toNat ≤ 57 := by
    simpa [Char.isDigit, UInt32.le_iff_toNat_le] using h
  simp only [isBlank, Bool.or_eq_true, Bool.and_eq_true, decide_eq_true_eq, beq_iff_eq]
  omega

theorem isBlankText_ofList_eq_false {cs : List Char} (h : ∃ c ∈ cs, ¬ isBlank c = true)
    : isBlankText (.ofList cs) = false := by
  unfold isBlankText
  simpa using h

end Text

theorem exists_not_isBlank_toDigits (n : Nat) : ∃ c ∈ Nat.toDigits 10 n, ¬ isBlank c = true := by
  rcases List.exists_mem_of_ne_nil _ (Nat.toDigits_ne_nil (n := n) (b := 10)) with ⟨c, hc⟩
  have hdigit := Nat.isDigit_of_mem_toDigits (by decide) (by decide) hc
  exact ⟨c, hc, not_isBlank_of_isDigit hdigit⟩

namespace Numeric.Layout

variable {digits : List Char}

theorem exists_not_isBlank_positionalChars (h : ∃ c ∈ digits, ¬ isBlank c = true) (l : Layout)
    (exponent : Int)
    : ∃ c ∈ l.positionalChars digits exponent, ¬ isBlank c = true := by
  unfold positionalChars
  dsimp only
  split
  . rcases h with ⟨c, hc, hblank⟩
    exact ⟨c, List.mem_append_left _ (List.mem_append_left _ hc), hblank⟩
  . split
    . exact ⟨'.', by simp, by decide⟩
    . exact ⟨'.', by simp, by decide⟩

theorem exists_not_isBlank_scientificChars (l : Layout) (digits : List Char) (exponent : Int)
    : ∃ c ∈ l.scientificChars digits exponent, ¬ isBlank c = true := by
  refine ⟨'e', ?_, by decide⟩
  unfold scientificChars
  simp

theorem exists_not_isBlank_decimalChars (l : Layout) (d : Decimal)
    : ∃ c ∈ l.decimalChars d, ¬ isBlank c = true := by
  have hpositional := exists_not_isBlank_positionalChars (exists_not_isBlank_toDigits d.digits) l
  unfold decimalChars
  dsimp only
  split
  . exact hpositional 0
  . split
    . split
      . exact hpositional d.exponent
      . exact exists_not_isBlank_scientificChars l _ _
    . exact hpositional d.exponent

theorem exists_not_isBlank_chars (l : Layout) {f : Numeric.Format} (x : Finite f)
    : ∃ c ∈ l.chars x, ¬ isBlank c = true := by
  rcases l.exists_not_isBlank_decimalChars (x.shortest l.tie) with ⟨c, hc, hblank⟩
  refine ⟨c, ?_, hblank⟩
  unfold chars
  dsimp only
  split
  . exact List.mem_cons_of_mem '-' hc
  . exact hc

end Numeric.Layout

theorem Number.exists_not_isBlank_chars (n : Number) : ∃ c ∈ n.chars, ¬ isBlank c = true := by
  cases n with
  | float x => exact layout.exists_not_isBlank_chars x
  | int n isWord =>
    rcases exists_not_isBlank_toDigits n.natAbs with ⟨c, hc, hblank⟩
    refine ⟨c, ?_, hblank⟩
    unfold chars
    dsimp only
    split
    . exact List.mem_cons_of_mem '-' hc
    . exact hc

namespace Json

variable {j : Json} {s : String}

theorem isBlankText_scalarText? (hs : j.scalarText? = some s)
    : isBlankText s = j.isMissing := by
  cases j with
  | string t =>
    cases hs
    rfl
  | number n =>
    cases hs
    exact isBlankText_ofList_eq_false n.exists_not_isBlank_chars
  | bool b =>
    cases hs
    cases b with
    | false => decide +kernel
    | true => decide +kernel
  | null | array items | object members => cases hs

theorem isEmpty_trim_scalarText? (hs : j.scalarText? = some s) (hj : ¬ j.isMissing = true)
    : (trim s).isEmpty = false := by
  rw [Bool.eq_false_iff, ne_eq, String.isEmpty_iff, trim_eq_empty_iff, isBlankText_scalarText? hs]
  exact hj

end Json

end Counterpart
