import Counterpart.Import.Inference
import Counterpart.Proofs.Format.Scalar
import Counterpart.Proofs.Import.Transform

/-!
This module contains that a value fits a field exactly if it can be brought into the field's type.
Only of lists and objects this is not so, and only for fields of plain text, because inference takes
any value to have a text.
-/

namespace Counterpart

open Text

def FieldKind.isPlainText : FieldKind → Bool
  | .text | .textarea | .file => true
  | _ => false

def Json.IsScalar : Json → Prop
  | .string _ | .number _ | .bool _ => True
  | .null | .array _ | .object _ => False

theorem Json.IsScalar.exists_scalarText {j : Json} (h : j.IsScalar)
    : ∃ s, j.scalarText? = some s := by
  cases j with
  | string | number | bool => exact ⟨_, rfl⟩
  | null | array | object => exact h.elim

@[simp]
theorem Calendar.isDate_trim (s : String) : isDate (trim s) = isDate s := by
  unfold isDate
  rw [trimChars_toList_trim]

@[simp]
theorem Format.isEmail_trim (s : String) : isEmail (trim s) = isEmail s := by
  unfold isEmail
  rw [trimChars_toList_trim]

@[simp]
theorem Format.isUrl_trim (s : String) : isUrl (trim s) = isUrl s := by
  unfold isUrl
  rw [trimChars_toList_trim]

@[simp]
theorem Format.isPhone_trim (s : String) : isPhone (trim s) = isPhone s := by
  unfold isPhone
  rw [trimChars_toList_trim]

namespace Field

variable {f : Field} {j : Json}

theorem isSome_checkedText? (p : String → Bool) (j : Json)
    : (checkedText? p j).isSome = textFits (fun s => p (trim s)) j := by
  unfold checkedText? textFits
  cases j.scalarText? with
  | none => rfl
  | some s =>
    dsimp only [Option.bind_eq_bind, Option.bind_some, Option.any_some]
    cases p (trim s) with
    | false => rfl
    | true => rfl

theorem isSome_choiceValue? (f : Field) (create : Bool) (t : String)
    : (f.choiceValue? create t).isSome = (create || f.choices.namesChoice t) := by
  rw [choiceValue?_eq, Bool.eq_iff_iff, Bool.or_eq_true, ← Reads]
  simp

theorem isSome_transform?_of_single (hf : f.bearsChoices = true) (hkind : f.kind ≠ .multiselect)
    (create : Bool) (hj : ¬ j.isMissing = true)
    : (f.transform? create j).isSome
        =
      textFits (fun s => create || f.choices.namesChoice s) j := by
  rw [transform?_of_single hf hkind, Option.isSome_map]
  unfold textFits
  cases hs : j.scalarText? with
  | none => rfl
  | some s =>
    rw [Option.bind_some, Option.any_some, isSome_choiceValue?, Choices.namesChoice_trim]
    rw [Json.isEmpty_trim_scalarText? hs hj, Bool.not_false, Bool.and_true]

theorem isSome_transform?_of_several (hkind : f.kind = .multiselect) (create : Bool) (j : Json)
    : (f.transform? create j).isSome
        =
      (Import.cellTokens? j).any fun tokens =>
        !tokens.isEmpty && (create || tokens.all f.choices.namesChoice) := by
  have hsome : (f.transform? create j).isSome = true ↔ f.ReadsAll create (f.cellTexts j) := by
    rw [transform?_several hkind]
    split
    . next h => simpa using h
    . next h => simpa using h
  rw [Bool.eq_iff_iff, hsome, readsAll_iff, cellTexts_eq_cellTokens hkind]
  cases Import.cellTokens? j with
  | none => simp
  | some tokens => simp

/-- A value fits a field if it can be brought into its type, or if it has no text and the field
takes any. -/
theorem fits_eq (f : Field) (create : Bool) (hj : ¬ j.isMissing = true)
    : f.fits create j
        =
      ((f.transform? create j).isSome || (f.kind.isPlainText && j.scalarText?.isNone)) := by
  unfold fits
  cases hf : f.kind with
  | button | unknown => simp [FieldKind.isPlainText, transform?, hf]
  | number | checkbox => simp [FieldKind.isPlainText, transform?, hf]
  | select | radio =>
    have hbears : f.bearsChoices = true := by simp [bearsChoices, hf, FieldKind.bearsChoices]
    rw [isSome_transform?_of_single hbears (by simp [hf]) create hj]
    simp [FieldKind.isPlainText]
  | multiselect =>
    rw [isSome_transform?_of_several hf]
    simp [FieldKind.isPlainText]
  | date | email | url | phone =>
    simp [FieldKind.isPlainText, transform?, hf, isSome_checkedText?]
  | text | textarea | file =>
    simp only [FieldKind.isPlainText, transform?, hf, isSome_checkedText?, Bool.true_and]
    unfold textFits
    cases hs : j.scalarText? with
    | none => rfl
    | some s =>
      simp [Json.isEmpty_trim_scalarText? hs hj]

/-- A value that is not missing fits a field exactly if it can be brought into the field's type, as
long as it is a text, number or truth value, or a list for a field with several choices. -/
theorem fits_iff_transform? (f : Field) (create : Bool) (hmissing : ¬ j.isMissing = true)
    (hj : j.IsScalar ∨ (f.kind = .multiselect ∧ ∃ items, j = .array items))
    : f.fits create j = true ↔ ∃ v, f.transform? create j = some v := by
  have htext : (f.kind.isPlainText && j.scalarText?.isNone) = false := by
    rcases hj with hscalar | ⟨hkind, _⟩
    . rcases hscalar.exists_scalarText with ⟨s, hs⟩
      simp [hs]
    . simp [hkind, FieldKind.isPlainText]
  rw [fits_eq f create hmissing, htext, Bool.or_false, Option.isSome_iff_exists]

theorem fits_iff_transform?_stage
    : let stage : Field :=
        { key := "stage", label := "Stage", kind := .select, choices := [⟨"Seed", "s"⟩] }
      let stages : Field := { stage with kind := .multiselect }
      let label : Json := .string " SEED "
      let list : Json := .array [.string "seed", .null, .string "Growth"]
      ¬ label.isMissing = true ∧ label.IsScalar
        ∧ (stage.fits false label = true ∧ ∃ v, stage.transform? false label = some v)
        ∧ ¬ list.isMissing = true ∧ stages.kind = .multiselect
        ∧ (stages.fits false list = false ∧ ¬ ∃ v, stages.transform? false list = some v)
        ∧ (stages.fits true list = true ∧ ∃ v, stages.transform? true list = some v) := by
  intro stage stages label list
  have hlabel : ¬ label.isMissing = true := by decide +kernel
  have hlist : ¬ list.isMissing = true := by decide +kernel
  have hseed : stage.fits false label = true := by decide +kernel
  have hstrict : stages.fits false list = false := by decide +kernel
  have hcreate : stages.fits true list = true := by decide +kernel
  have hread : ∀ create, stages.fits create list = true
      ↔ ∃ v, stages.transform? create list = some v := by
    intro create
    exact fits_iff_transform? stages create hlist (.inr ⟨rfl, _, rfl⟩)
  refine ⟨hlabel, trivial, ⟨hseed, ?_⟩, hlist, rfl, ⟨hstrict, ?_⟩, hcreate, (hread true).1 hcreate⟩
  . exact (fits_iff_transform? stage false hlabel (.inl trivial)).1 hseed
  . rw [← hread false, hstrict]
    simp

end Field

end Counterpart
