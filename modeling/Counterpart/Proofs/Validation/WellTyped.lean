import Counterpart.Proofs.Field.Choices
import Counterpart.Proofs.Validation.Stored

/-!
This module contains what it means for data to be well typed, and that validation stores well-typed
data and stores it unchanged. Neither depends on whether data is submitted or imported.
-/

namespace Counterpart

namespace Field

def Admits (f : Field) (j : Json) : Prop :=
  match f.kind with
  | .text | .textarea | .date | .file => ∃ s, j = .string s
  | .email => ∃ s, j = .string s ∧ (Text.isBlankText s = true ∨ Format.isEmail s = true)
  | .url => ∃ s, j = .string s ∧ (Text.isBlankText s = true ∨ Format.isUrl s = true)
  | .phone => ∃ s, j = .string s ∧ (Text.isBlankText s = true ∨ Format.isPhone s = true)
  | .number =>
    ∃ n, j = .number n ∧ ∀ b, f.bounds = some b → b.contains (.finite n.toDouble) = true
  | .select | .radio => ∃ c ∈ f.choices, j = .string c.value
  | .multiselect =>
    ∃ items, j = .array items ∧ ∀ item ∈ items, ∃ c ∈ f.choices, item = .string c.value
  | .checkbox => ∃ b, j = .bool b
  | .unknown _ => j ≠ .null
  | .button => False

variable {f : Field} {rule : Rule} {j : Json} {data : KeyMap Json}

theorem isChoice_iff {choices : Choices}
    : Rule.isChoice choices j = true ↔ ∃ c ∈ choices, j = .string c.value := by
  cases j with
  | string s => simp [Rule.isChoice, Choices.hasValue_iff, @eq_comm _ s]
  | null | bool | number | array | object => simp [Rule.isChoice]

theorem fits_text_iff {form : TextSyntax}
    : Rule.fits (.text form) j = true
        ↔
      ∃ s, j = .string s ∧ (Text.isBlankText s = true ∨ form.accepts s = true) := by
  cases j with
  | string s => simp [Rule.fits]
  | null | bool | number | array | object => simp [Rule.fits]

theorem fits_several_iff {choices : Choices}
    : Rule.fits (.several choices) j = true
        ↔
      ∃ items, j = .array items ∧ ∀ item ∈ items, ∃ c ∈ choices, item = .string c.value := by
  cases j with
  | array items => simp [Rule.fits, isChoice_iff]
  | null | bool | number | string | object => simp [Rule.fits]

theorem fits_single_iff {choices : Choices}
    : Rule.fits (.single choices) j = true ↔ ∃ c ∈ choices, j = .string c.value := by
  rw [← isChoice_iff]
  cases j with
  | string s => simp [Rule.fits, Rule.isChoice]
  | null | bool | number | array | object => simp [Rule.fits, Rule.isChoice]

theorem fits_number_iff {bounds : Option Bounds}
    : (Rule.fits (.number bounds) j = true ∧ Rule.excess? (.number bounds) j = none)
        ↔
      ∃ n, j = .number n ∧ ∀ b, bounds = some b → b.contains (.finite n.toDouble) = true := by
  cases j with
  | number n => cases bounds <;> simp [Rule.fits, Rule.excess?]
  | null | bool | string | array | object => simp [Rule.fits]

theorem fits_checkbox_iff : Rule.fits .checkbox j = true ↔ ∃ b, j = .bool b := by
  cases j with
  | bool b => simp [Rule.fits]
  | null | number | string | array | object => simp [Rule.fits]

theorem admits_iff
    : f.Admits j
        ↔
      ∃ rule, Rule.ofField? f = some rule ∧ rule.fits j = true ∧ rule.excess? j = none := by
  unfold Admits Rule.ofField?
  cases hf : f.kind with
  | button => simp
  | text | textarea | date | file =>
    simp [fits_text_iff, TextSyntax.accepts, Rule.excess?]
  | email | url | phone => simp [fits_text_iff, TextSyntax.accepts, Rule.excess?]
  | number => simp [fits_number_iff]
  | select | radio => simp [fits_single_iff, Rule.excess?]
  | multiselect => simp [fits_several_iff, Rule.excess?]
  | checkbox => simp [fits_checkbox_iff, Rule.excess?]
  | unknown name => simp [Rule.fits, Rule.excess?]

theorem issue?_eq_none_iff (hrule : Rule.ofField? f = some rule)
    : f.issue? data = none
        ↔
      (f.required = true → ∃ j, data.get? f.key = some j ∧ j.isMissing = false)
        ∧ ∀ j, data.get? f.key = some j → rule.excess? j = none := by
  unfold issue? FieldRule.issue?
  rw [ofField?_eq, hrule, Option.map_some, Option.bind_some]
  cases data.get? f.key with
  | none => simp
  | some j =>
    dsimp only
    split
    . next h => simp [h]
    . next h =>
      rw [not_and', Bool.not_eq_true] at h
      simpa using fun _ => h

end Field

/-- Data in which every value belongs to a field with data and is of its type, and every such field
that requires a value has one that is not blank. -/
structure WellTyped (fields : List Field) (data : KeyMap Json) : Prop where
  typed : ∀ key j, data.get? key = some j →
    j ≠ .null ∧ ∃ f ∈ fields, f.key = key ∧ f.carriesData = true ∧ f.Admits j
  complete : ∀ f ∈ fields, f.carriesData = true → f.required = true →
    ∃ j, data.get? f.key = some j ∧ j.isMissing = false

variable {fields : List Field} {data : KeyMap Json} {mode : Mode} {candidate : Json}

namespace WellTyped

theorem suits (h : WellTyped fields data) : Suits fields data := by
  intro key j hj
  rcases h.typed key j hj with ⟨_, f, hf, hkey, _, hadmits⟩
  rcases Field.admits_iff.1 hadmits with ⟨rule, hrule, hfits, _⟩
  refine ⟨f, hf, hkey, ?_⟩
  rwa [Field.fitsRule_eq hrule]

theorem issue? (h : WellTyped fields data) (hkeys : (fields.map Field.key).Nodup)
    : ∀ f ∈ fields, f.issue? data = none := by
  intro f hf
  cases hrule : Rule.ofField? f with
  | none => simp [Field.issue?, Field.ofField?_eq, hrule]
  | some rule =>
    rw [Field.issue?_eq_none_iff hrule]
    refine ⟨h.complete f hf (Field.carriesData_of_ofField? hrule), ?_⟩
    intro j hj
    rcases h.typed f.key j hj with ⟨_, g, hg, hkey, _, hadmits⟩
    rw [List.inj_on_of_nodup_map hkeys hg hf hkey] at hadmits
    rcases Field.admits_iff.1 hadmits with ⟨_, hsome, _, hexcess⟩
    cases hrule.symm.trans hsome
    exact hexcess

theorem of_suits (h : Suits fields data) (hnone : ∀ f ∈ fields, f.issue? data = none)
    : WellTyped fields data where
  typed := by
    intro key j hj
    rcases h key j hj with ⟨f, hf, rfl, hfits⟩
    cases hrule : Rule.ofField? f with
    | none => simp [Field.fitsRule, hrule] at hfits
    | some rule =>
      rw [Field.fitsRule_eq hrule] at hfits
      have hexcess := ((Field.issue?_eq_none_iff hrule).1 (hnone f hf)).2 j hj
      refine ⟨Rule.ne_null_of_fits hfits, f, hf, rfl, Field.carriesData_of_ofField? hrule, ?_⟩
      exact Field.admits_iff.2 ⟨rule, hrule, hfits, hexcess⟩
  complete := by
    intro f hf hdata
    rw [← Field.isSome_ofField?, Option.isSome_iff_exists] at hdata
    rcases hdata with ⟨rule, hrule⟩
    exact ((Field.issue?_eq_none_iff hrule).1 (hnone f hf)).1

theorem validate_eq (h : WellTyped fields data) (hkeys : (fields.map Field.key).Nodup) (mode : Mode)
    : (Validator.compile fields mode).validate (.ofMap data) = .ok data := by
  have hfaultless : isFaulty fields data = false := by
    have hempty := (Suits.issuesOf_isEmpty_iff hkeys data).2 (h.issue? hkeys)
    rwa [h.suits.issuesOf_isEmpty hkeys, Bool.not_eq_true'] at hempty
  rw [h.suits.validate_eq hkeys mode, hfaultless]
  rfl

theorem of_validate (hkeys : (fields.map Field.key).Nodup)
    (h : (Validator.compile fields mode).validate candidate = .ok data)
    : WellTyped fields data := by
  apply of_suits
  . exact Validator.suits_of_validate hkeys h
  . exact Validator.issue?_of_validate hkeys h

end WellTyped

/-- Validation stores well-typed data, and data is well typed exactly if it is stored unchanged.
Therefore what was stored is stored again unchanged, be it submitted or imported. -/
theorem validate_eq_ok_iff_wellTyped (s : Schema) (mode : Mode)
    : (∀ candidate data, (Validator.compile s.fields mode).validate candidate = .ok data →
          WellTyped s.fields data)
      ∧ (∀ data, WellTyped s.fields data
          ↔
        (Validator.compile s.fields mode).validate (.ofMap data) = .ok data)
      ∧ ∀ candidate data, (Validator.compile s.fields mode).validate candidate = .ok data →
          ∀ other, (Validator.compile s.fields other).validate (.ofMap data) = .ok data := by
  have hkeys := s.nodup_keys
  refine ⟨?_, ?_, ?_⟩
  . intro candidate data h
    exact WellTyped.of_validate hkeys h
  . intro data
    constructor
    . intro h
      exact h.validate_eq hkeys mode
    . exact WellTyped.of_validate hkeys
  . intro candidate data h other
    exact (WellTyped.of_validate hkeys h).validate_eq hkeys other

theorem validate_eq_ok_iff_wellTyped_application
    : let raise : Field :=
        { key := "raise", label := "Raise", kind := .number, required := true,
          bounds := some (.range (.ofInt _ 0) (.ofInt _ 100)) }
      let agree : Field := { key := "agree", label := "Agree", kind := .checkbox }
      let tags : Field :=
        { key := "tags", label := "Tags", kind := .multiselect, choices := [.ofValue "AI"] }
      let mail : Field := { key := "mail", label := "Mail", kind := .email }
      let candidate : Json :=
        .object [("raise", .string "1e2"), ("agree", .ofInt 1), ("tags", .array []),
          ("mail", .string " ")]
      let data : KeyMap Json :=
        .ofList [("agree", .bool true), ("mail", .string " "), ("raise", .ofInt 100),
          ("tags", .array [])]
      ∃ s : Schema,
        s.fields = [raise, agree, tags, mail]
          ∧ (Validator.compile s.fields .importing).validate candidate = .ok data
          ∧ WellTyped s.fields data
          ∧ (Validator.compile s.fields .submission).validate (.ofMap data) = .ok data := by
  intro raise agree tags mail candidate data
  let s : Schema := ⟨[raise, agree, tags, mail], by decide +kernel⟩
  have hdata : (Validator.compile s.fields .importing).validate candidate = .ok data := by
    decide +kernel
  rcases validate_eq_ok_iff_wellTyped s .importing with ⟨htyped, _, hagain⟩
  exact ⟨s, rfl, hdata, htyped _ _ hdata, hagain _ _ hdata .submission⟩

/-- A button that requires a value is not asked for one. -/
theorem validate_required_button
    : let submit : Field := { key := "submit", label := "Submit", kind := .button, required := true }
      let data : KeyMap Json := .empty
      ∃ s : Schema,
        s.fields = [submit]
          ∧ (Validator.compile s.fields .submission).validate (.ofMap data) = .ok data
          ∧ ¬ ∀ f ∈ s.fields, f.required = true →
            ∃ j, data.get? f.key = some j ∧ j.isMissing = false := by
  intro submit data
  let s : Schema := ⟨[submit], by decide +kernel⟩
  refine ⟨s, rfl, by decide +kernel, ?_⟩
  intro h
  rcases h submit List.mem_cons_self rfl with ⟨j, hj, _⟩
  cases hj

end Counterpart
