import Counterpart.Validation.Validator

/-!
This module contains the values that a rule leaves as they are. Such a value fits the rule, and then
the only things that can be said against it are that it is blank where a value is required, and
that it lies outside the bounds; neither depends on whether data is submitted or imported.
-/

namespace Counterpart

namespace Rule

/-- Whether a value has the shape that the rule asks for, bounds aside. -/
def fits : Rule → Json → Bool
  | .text form, .string s => Text.isBlankText s || form.accepts s
  | .number _, .number _ => true
  | .single choices, .string s => choices.hasValue s
  | .several choices, .array items => items.all (isChoice choices)
  | .checkbox, .bool _ => true
  | .any, j => j ≠ .null
  | _, _ => false

def excess? : Rule → Json → Option Issue
  | .number bounds, .number n =>
    if bounds.all (·.contains (.finite n.toDouble)) then
      none
    else
      some (.outOfRange (.finite n.toDouble) (bounds.bind Bounds.min) (bounds.bind Bounds.max))
  | _, _ => none

variable {r : Rule} {j : Json}

theorem ne_null_of_fits (h : r.fits j = true) : j ≠ .null := by
  rintro rfl
  cases r with
  | any => simp [fits] at h
  | text | number | single | several | checkbox => cases h

theorem excess?_of_isMissing (h : j.isMissing = true) : r.excess? j = none := by
  unfold excess?
  split
  . cases h
  . rfl

theorem check_of_fits (h : r.fits j = true)
    (hempty : ¬ (j.isMissing = true ∧ r.acceptsEmpty j = true)) (mode : Mode)
    : r.check mode j
        =
      match r.excess? j with
      | some i => .error i
      | none => .ok j := by
  cases r with
  | text form =>
    cases j with
    | string s =>
      have haccepts : form.accepts s = true := by
        rcases Bool.or_eq_true_iff.1 h with hblank | haccepts
        . exact absurd ⟨hblank, rfl⟩ hempty
        . exact haccepts
      simp [check, excess?, haccepts]
    | null | bool | number | array | object => cases h
  | number bounds =>
    cases j with
    | number n =>
      simp only [check, excess?, Json.asNumber?]
      split
      . rfl
      . rfl
    | null | bool | string | array | object => cases h
  | single choices =>
    cases j with
    | string s =>
      have hvalue : isChoice choices (.string s) = true := h
      simp [check, excess?, hvalue]
    | null | bool | number | array | object => cases h
  | several choices =>
    cases j with
    | array items =>
      have hnone : items.filter (!isChoice choices ·) = [] := by
        rw [List.filter_eq_nil_iff]
        intro item hitem
        simpa using List.all_eq_true.1 h item hitem
      simp [check, excess?, hnone]
    | null | bool | number | string | object => cases h
  | checkbox =>
    cases j with
    | bool b => cases mode <;> rfl
    | null | number | string | array | object => cases h
  | any => rfl

end Rule

namespace FieldRule

def issue? (r : FieldRule) : Option Json → Option Issue
  | none => if r.required then some .required else none
  | some j => if j.isMissing ∧ r.required then some .required else r.rule.excess? j

theorem check_of_fits {r : FieldRule} {value : Option Json}
    (h : ∀ j ∈ value, r.rule.fits j = true) (mode : Mode)
    : r.check mode (value.getD .null)
        =
      match r.issue? value with
      | some i => .error i
      | none => .ok value := by
  cases value with
  | none =>
    cases hr : r.required with
    | true => simp [check, issue?, Json.isMissing, hr]
    | false => simp [check, issue?, Json.isMissing, hr]
  | some j =>
    have hfits := h j rfl
    unfold check issue?
    rw [Option.getD_some]
    dsimp only
    split
    . rfl
    . rw [if_neg (Rule.ne_null_of_fits hfits)]
      split
      . next hempty =>
        rw [Rule.excess?_of_isMissing hempty.1]
      . next hempty =>
        rw [Rule.check_of_fits hfits hempty]
        cases r.rule.excess? j with
        | none => rfl
        | some i => rfl

end FieldRule

namespace Field

def fitsRule (f : Field) (j : Json) : Bool := (Rule.ofField? f).any (·.fits j)

def issue? (f : Field) (data : KeyMap Json) : Option Issue :=
  (FieldRule.ofField? f).bind fun r => r.issue? (data.get? f.key)

def lacksValue (f : Field) (data : KeyMap Json) : Bool :=
  f.required && f.carriesData && (data.get? f.key).all Json.isMissing

def strayNumber? (f : Field) (data : KeyMap Json) : Option (Numeric.Finite Numeric.double) :=
  if f.kind = .number then
    ((data.get? f.key).bind Json.asNumber?).filter fun x => !f.bounds.all (·.contains (.finite x))
  else
    none

def rangeIssue (f : Field) (x : Numeric.Finite Numeric.double) : Issue :=
  .outOfRange (.finite x) (f.bounds.bind Bounds.min) (f.bounds.bind Bounds.max)

variable {f : Field} {data : KeyMap Json}

theorem ofField?_eq (f : Field)
    : FieldRule.ofField? f
        =
      (Rule.ofField? f).map fun rule => { key := f.key, required := f.required, rule } := by
  rfl

theorem isSome_ofField? (f : Field) : (Rule.ofField? f).isSome = f.carriesData := by
  unfold Rule.ofField? carriesData
  cases f.kind <;> rfl

theorem carriesData_of_ofField? {rule : Rule} (hrule : Rule.ofField? f = some rule)
    : f.carriesData = true := by
  rw [← isSome_ofField?, hrule, Option.isSome_some]

theorem fitsRule_eq {rule : Rule} (hrule : Rule.ofField? f = some rule) (j : Json)
    : f.fitsRule j = rule.fits j := by
  unfold fitsRule
  rw [hrule, Option.any_some]

theorem excess?_eq_strayNumber? {rule : Rule} (hrule : Rule.ofField? f = some rule) {j : Json}
    (hj : data.get? f.key = some j) (hfits : rule.fits j = true)
    : rule.excess? j = (f.strayNumber? data).map f.rangeIssue := by
  unfold Rule.ofField? at hrule
  unfold strayNumber?
  cases hf : f.kind with
  | number =>
    rw [hf] at hrule
    cases hrule
    cases j with
    | number n =>
      rw [hj, if_pos rfl]
      simp only [Rule.excess?, Json.asNumber?, Option.bind_some, Option.filter_some]
      cases f.bounds.all (·.contains (.finite n.toDouble)) with
      | true => rfl
      | false => rfl
    | null | bool | string | array | object => cases hfits
  | button =>
    rw [hf] at hrule
    cases hrule
  | text | email | textarea | select | multiselect | radio | checkbox | date | file | url | phone
  | unknown =>
    rw [hf] at hrule
    cases hrule
    rfl

theorem strayNumber?_of_get?_eq_none (h : data.get? f.key = none) : f.strayNumber? data = none := by
  unfold strayNumber?
  rw [h]
  split
  . rfl
  . rfl

theorem strayNumber?_of_not_carriesData (h : ¬ f.carriesData = true)
    : f.strayNumber? data = none := by
  unfold strayNumber?
  rw [if_neg]
  intro hf
  apply h
  unfold carriesData
  rw [hf]
  rfl

theorem issue?_eq (h : ∀ j, data.get? f.key = some j → f.fitsRule j = true)
    : f.issue? data
        =
      if f.lacksValue data then some .required else (f.strayNumber? data).map f.rangeIssue := by
  unfold issue? lacksValue
  rw [ofField?_eq, ← isSome_ofField?]
  cases hrule : Rule.ofField? f with
  | none =>
    have hdata : ¬ f.carriesData = true := by
      rw [← isSome_ofField?, hrule]
      simp
    rw [strayNumber?_of_not_carriesData hdata]
    simp
  | some rule =>
    simp only [Option.map_some, Option.bind_some, Option.isSome_some, Bool.and_true]
    cases hj : data.get? f.key with
    | none =>
      rw [strayNumber?_of_get?_eq_none hj]
      simp [FieldRule.issue?]
    | some j =>
      have hfits := h j hj
      unfold fitsRule at hfits
      rw [hrule, Option.any_some] at hfits
      rw [← excess?_eq_strayNumber? hrule hj hfits]
      simp [FieldRule.issue?, and_comm]

theorem lacksValue_of_strayNumber? (h : ∀ j, data.get? f.key = some j → f.fitsRule j = true)
    {x : Numeric.Finite Numeric.double} (hx : f.strayNumber? data = some x)
    : f.lacksValue data = false := by
  unfold strayNumber? at hx
  split at hx
  . next hf =>
    -- The value fits a number field, so it is a number, and numbers are not blank.
    rw [Option.filter_eq_some_iff, Option.bind_eq_some_iff] at hx
    rcases hx with ⟨⟨j, hj, _⟩, _⟩
    have hfits := h j hj
    unfold fitsRule Rule.ofField? at hfits
    rw [hf] at hfits
    unfold lacksValue
    rw [hj]
    cases j with
    | number n => simp [Json.isMissing]
    | null | bool | string | array | object => cases hfits
  . cases hx

end Field

end Counterpart
