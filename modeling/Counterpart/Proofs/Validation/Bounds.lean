import Counterpart.Proofs.Numeric.Value
import Counterpart.Proofs.Validation.WellTyped

/-!
This module contains how far stored numbers keep to the bounds of their field. Bounds are checked on the
double nearest to a number, but an integer is stored as it was given. So one that no double is exactly may
lie beyond a bound that it is rounded to. No other number does.
-/

namespace Counterpart

open Numeric

namespace Bounds

variable {b : Bounds} {n : Number} {x : Finite double}

/-- Whether a number lies within the bounds, both taken for the exact numbers that they denote. -/
def Encloses (b : Bounds) (q : ℚ) : Prop :=
  (∀ lo, b.min = some (.finite lo) → lo.toRat ≤ q) ∧ ∀ hi, b.max = some (.finite hi) → q ≤ hi.toRat

/-- Whether a number lies beyond a bound and is rounded to that bound. -/
def Absorbs (b : Bounds) (n : Number) : Prop :=
  (∃ lo, b.min = some (.finite lo) ∧ n.toRat < lo.toRat ∧ n.toDouble.toRat = lo.toRat)
    ∨ ∃ hi, b.max = some (.finite hi) ∧ hi.toRat < n.toRat ∧ n.toDouble.toRat = hi.toRat

theorem encloses_of_contains (h : b.contains (.finite x) = true) : b.Encloses x.toRat := by
  unfold contains at h
  rw [Bool.and_eq_true, Option.all_eq_true, Option.all_eq_true] at h
  constructor
  . intro lo hlo
    have hle : lo.le x = true := h.1 (.finite lo) hlo
    exact Finite.toRat_le_toRat_iff.2 (by simpa [Finite.le] using hle)
  . intro hi hhi
    have hle : x.le hi = true := h.2 (.finite hi) hhi
    exact Finite.toRat_le_toRat_iff.2 (by simpa [Finite.le] using hle)

theorem not_isDouble_of_absorbs (h : b.Absorbs n) : ¬ n.IsDouble := by
  rw [← Number.toRat_toDouble_eq_iff]
  intro heq
  rcases h with ⟨lo, _, hlt, hround⟩ | ⟨hi, _, hlt, hround⟩
  . exact hlt.ne (heq.symm.trans hround)
  . exact hlt.ne (hround.symm.trans heq)

theorem encloses_iff_not_absorbs (h : b.contains (.finite n.toDouble) = true)
    : b.Encloses n.toRat ↔ ¬ b.Absorbs n := by
  rcases encloses_of_contains h with ⟨hmin, hmax⟩
  constructor
  . rintro ⟨hlo, hhi⟩ (⟨lo, hsome, hlt, _⟩ | ⟨hi, hsome, hlt, _⟩)
    . exact (hlo lo hsome).not_gt hlt
    . exact (hhi hi hsome).not_gt hlt
  . intro habsorbs
    constructor
    . intro lo hsome
      by_contra hlt
      rw [not_le] at hlt
      exact habsorbs (.inl ⟨lo, hsome, hlt, (Number.toDouble_le hlt.le).antisymm (hmin lo hsome)⟩)
    . intro hi hsome
      by_contra hlt
      rw [not_le] at hlt
      exact habsorbs (.inr ⟨hi, hsome, hlt, (hmax hi hsome).antisymm (Number.le_toDouble hlt.le)⟩)

end Bounds

/-- A number that a field stores is rounded to a double within the bounds. It lies within them itself
unless it is rounded onto one from beyond, and then it is an integer of more than 53 bits that the
candidate has as it is. Such an integer is at most 1024 beyond the bound. -/
theorem validate_number_encloses_iff (s : Schema) (mode : Mode) {f : Field} {b : Bounds}
    {candidate j : Json} {data : KeyMap Json} (hf : f ∈ s.fields) (hkind : f.kind = .number)
    (hbounds : f.bounds = some b)
    (hok : (Validator.compile s.fields mode).validate candidate = .ok data)
    (hj : data.get? f.key = some j)
    : ∃ n, j = .number n
        ∧ b.Encloses n.toDouble.toRat
        ∧ (b.Encloses n.toRat ↔ ¬ b.Absorbs n)
        ∧ (b.Absorbs n →
          candidate.member? f.key = some (.number n)
            ∧ (∃ i isWord, n = .int i isWord ∧ Nat.pow 2 53 < i.natAbs)
            ∧ |n.toDouble.toRat - n.toRat| ≤ 1024) := by
  have hkeys := s.nodup_keys
  rcases (WellTyped.of_validate hkeys hok).typed f.key j hj with ⟨_, g, hg, hkey, _, hadmits⟩
  rw [List.inj_on_of_nodup_map hkeys hg hf hkey] at hadmits
  unfold Field.Admits at hadmits
  rw [hkind] at hadmits
  rcases hadmits with ⟨n, rfl, hcontains⟩
  have hcontains := hcontains b hbounds
  refine ⟨n, rfl, Bounds.encloses_of_contains hcontains, Bounds.encloses_iff_not_absorbs hcontains, ?_⟩
  intro habsorbs
  have hdouble := Bounds.not_isDouble_of_absorbs habsorbs
  refine ⟨?_, Number.exists_int_of_not_isDouble hdouble, n.abs_toDouble_sub_le⟩
  rw [Validator.get?_of_validate hkeys hok hf] at hj
  rcases Field.kept?_eq_some hj with ⟨rule, k, hrule, hmember, _, hstored, _⟩
  rcases (Field.eq_getD_coerce?_iff hrule).1 hstored with hcoerces | ⟨rfl, _⟩
  . -- A number that was read from a text is a double.
    unfold Field.Coerces at hcoerces
    rw [hkind] at hcoerces
    rcases hcoerces with ⟨_, x, _, _, heq⟩
    cases heq
    exact absurd (Number.isDouble_ofDouble x) hdouble
  . exact hmember

theorem validate_number_encloses_iff_word
    : let lo : Finite double := .ofInt _ 9223372036854775808
      let b : Bounds := { min := some (.finite lo) }
      let raise : Field := { key := "raise", label := "Raise", kind := .number, bounds := some b }
      let n : Number := .int 9223372036854775807 (by decide)
      let candidate : Json := .object [("raise", .number n)]
      ∃ (s : Schema) (data : KeyMap Json),
        s.fields = [raise]
          ∧ (Validator.compile s.fields .importing).validate candidate = .ok data
          ∧ data.get? raise.key = some (.number n)
          ∧ b.Encloses n.toDouble.toRat ∧ b.Absorbs n ∧ ¬ b.Encloses n.toRat
          ∧ |n.toDouble.toRat - n.toRat| ≤ 1024 := by
  intro lo b raise n candidate
  let s : Schema := ⟨[raise], by decide +kernel⟩
  let data : KeyMap Json := .ofList [("raise", .number n)]
  have hok : (Validator.compile s.fields .importing).validate candidate = .ok data := by
    decide +kernel
  have hget : data.get? raise.key = some (.number n) := by decide +kernel
  have hbelow : n.toRat < lo.toRat := by
    apply lt_of_not_ge
    intro h
    exact absurd (Finite.toRat_le_cast_iff.1 h) (by decide +kernel)
  have hround : n.toDouble.toRat = lo.toRat := Finite.toRat_inj_iff.2 (by decide +kernel)
  have habsorbs : b.Absorbs n := .inl ⟨lo, rfl, hbelow, hround⟩
  rcases validate_number_encloses_iff s .importing (f := raise) (b := b) List.mem_cons_self rfl rfl
    hok hget with ⟨m, hm, hencloses, hiff, hbeyond⟩
  cases hm
  exact ⟨s, data, rfl, hok, hget, hencloses, habsorbs, fun h => hiff.1 h habsorbs,
    (hbeyond habsorbs).2.2⟩

/-- An integer above `2 ^ 53` is stored by a field with that maximum, in either mode. -/
theorem exists_stored_beyond_bounds
    : let hi : Finite double := .ofInt _ 9007199254740992
      let b : Bounds := { max := some (.finite hi) }
      let raise : Field := { key := "raise", label := "Raise", kind := .number, bounds := some b }
      let n : Number := .int 9007199254740993 (by decide)
      let candidate : Json := .object [("raise", .number n)]
      ∃ s : Schema,
        s.fields = [raise]
          ∧ (∀ mode, ∃ data, (Validator.compile s.fields mode).validate candidate = .ok data
            ∧ data.get? raise.key = some (.number n))
          ∧ hi.toRat = 9007199254740992 ∧ n.toRat = 9007199254740993 ∧ ¬ b.Encloses n.toRat := by
  intro hi b raise n candidate
  let s : Schema := ⟨[raise], by decide +kernel⟩
  let data : KeyMap Json := .ofList [("raise", .number n)]
  have hhi : hi.toRat = (9007199254740992 : Int) := Finite.toRat_eq_cast_iff.2 (by decide +kernel)
  have hn : n.toRat = 9007199254740993 := rfl
  refine ⟨s, rfl, ?_, hhi, hn, ?_⟩
  . intro mode
    refine ⟨data, ?_, by decide +kernel⟩
    cases mode with
    | submission => decide +kernel
    | importing => decide +kernel
  . rintro ⟨_, hmax⟩
    have hle := hmax hi rfl
    rw [hhi, hn] at hle
    norm_num at hle

end Counterpart
