import Counterpart.Proofs.Numeric.Value
import Counterpart.Proofs.Validation.Stored
import Counterpart.Import.Transform

/-!
This module contains which number is stored when one is imported and which when it is submitted. A
submitted number is stored as it is, an imported one as the double nearest to it.
-/

namespace Counterpart

open Numeric

namespace Field

variable {f : Field} {mode : Mode} {candidate : Json} {n : Number}

def Unbounded (f : Field) : Prop := ∀ b, f.bounds = some b → b.min = none ∧ b.max = none

theorem Unbounded.contains (h : f.Unbounded) (x : Double)
    : f.bounds.all (·.contains x) = true := by
  rw [Option.all_eq_true]
  intro b hb
  rcases h b hb with ⟨hmin, hmax⟩
  simp [Bounds.contains, hmin, hmax]

theorem kept?_number (hkind : f.kind = .number) (hfree : f.Unbounded)
    (hmember : candidate.member? f.key = some (.number n))
    : f.kept? mode candidate = some (.number n) := by
  have hrule : Rule.ofField? f = some (.number f.bounds) := by simp [Rule.ofField?, hkind]
  have hcheck : (Rule.number f.bounds).check mode (.number n) = .ok (.number n) := by
    simp [Rule.check, Json.asNumber?, hfree.contains]
  unfold kept? verdict?
  rw [ofField?_eq, hrule, hmember]
  simp [FieldRule.check, Json.isMissing, hcheck, Except.map]

end Field

/-- The number imported and the number submitted are the same exactly for the numbers that a double is
exactly. The others are integers of more than 53 bits, and these are imported as the nearest double. -/
theorem transform?_number_eq_submitted_iff {f : Field} (hkind : f.kind = .number)
    (hfree : f.Unbounded) (n : Number)
    : ∃ m : Number,
        (∀ createChoices, f.transform? createChoices (.number n) = some (.number m))
          ∧ (∀ candidate : Json, candidate.member? f.key = some (.number n) →
            (∃ data, f.validateAlone .submission candidate = .ok data
                ∧ data.get? f.key = some (.number n))
              ∧ ∀ s : Schema, f ∈ s.fields → ∀ data,
                (Validator.compile s.fields .submission).validate candidate = .ok data →
                data.get? f.key = some (.number n))
          ∧ m.toRat = n.toDouble.toRat
          ∧ (m.toRat = n.toRat ↔ n.IsDouble)
          ∧ (¬ n.IsDouble → ∃ i isWord, n = .int i isWord ∧ Nat.pow 2 53 < i.natAbs)
          ∧ |m.toRat - n.toRat| ≤ 1024 := by
  have hvalue : (Number.ofDouble n.toDouble).toRat = n.toDouble.toRat := Number.toRat_ofDouble _
  refine ⟨.ofDouble n.toDouble, ?_, ?_, hvalue, ?_, Number.exists_int_of_not_isDouble, ?_⟩
  . intro createChoices
    unfold Field.transform?
    rw [hkind]
    rfl
  . intro candidate hmember
    have hkept : f.kept? .submission candidate = some (.number n) :=
      Field.kept?_number hkind hfree hmember
    refine ⟨Field.get?_validateAlone_ok_iff.2 ⟨rfl, hkept⟩, ?_⟩
    intro s hf data hok
    rw [Validator.get?_of_validate s.nodup_keys hok hf, hkept]
  . rw [hvalue, Number.toRat_toDouble_eq_iff]
  . rw [hvalue]
    exact n.abs_toDouble_sub_le

theorem transform?_number_eq_submitted_iff_word
    : let raise : Field :=
        { key := "raise", label := "Raise", kind := .number, bounds := some { step := some (.ofInt _ 1) } }
      let n : Number := .int 18446744073709549568 (by decide)
      let x : Finite double := .ofInt _ 18446744073709549568
      let candidate : Json := .object [("raise", .number n)]
      raise.Unbounded ∧ n.IsDouble ∧ candidate.member? raise.key = some (.number n)
        ∧ ∃ m : Number,
          m = .float x ∧ raise.transform? false (.number n) = some (.number m)
            ∧ (∃ data, raise.validateAlone .submission candidate = .ok data
              ∧ data.get? raise.key = some (.number n))
            ∧ m.toRat = n.toRat := by
  intro raise n x candidate
  have hfree : raise.Unbounded := by
    rintro b ⟨⟩
    exact ⟨rfl, rfl⟩
  have hdouble : n.IsDouble := ⟨x, Finite.toRat_eq_cast_iff.2 (by decide +kernel)⟩
  rcases transform?_number_eq_submitted_iff (f := raise) rfl hfree n with
    ⟨m, himport, hsubmit, _, heq, _⟩
  have hm : m = .float x := by
    have hx : raise.transform? false (.number n) = some (.number (.float x)) := by decide +kernel
    rw [himport] at hx
    cases hx
    rfl
  exact ⟨hfree, hdouble, rfl, m, hm, himport false, (hsubmit candidate rfl).1, heq.2 hdouble⟩

/-- An integer of 54 bits is imported as another one than is submitted. -/
theorem exists_imported_ne_submitted
    : let raise : Field := { key := "raise", label := "Raise", kind := .number }
      let n : Number := .int 9007199254740993 (by decide)
      let candidate : Json := .object [("raise", .number n)]
      raise.Unbounded
        ∧ ∃ m : Number,
          raise.transform? false (.number n) = some (.number m) ∧ m.toRat = 9007199254740992
            ∧ (∃ data, raise.validateAlone .submission candidate = .ok data
              ∧ data.get? raise.key = some (.number n))
            ∧ n.toRat = 9007199254740993 := by
  intro raise n candidate
  let m : Number := .float (.ofInt _ 9007199254740992)
  let data : KeyMap Json := .ofList [("raise", .number n)]
  refine ⟨by rintro b ⟨⟩, m, by decide +kernel, ?_, ⟨data, by decide +kernel, by decide +kernel⟩, rfl⟩
  exact Finite.toRat_eq_cast_iff.2 (by decide +kernel)

end Counterpart
