import Counterpart.Proofs.KeyMap
import Counterpart.Proofs.Validation.Fits

/-!
This module contains validation seen field by field: what is found and what is stored under the key
of a field depends on that field alone. Data that fits the fields is either stored unchanged or
refused for what is blank or out of bounds.
-/

namespace Counterpart

namespace Field

def verdict? (mode : Mode) (candidate : Json) (f : Field) : Option (Except Issue (Option Json)) :=
  (FieldRule.ofField? f).map fun r => r.check mode ((candidate.member? f.key).getD .null)

def failure? (mode : Mode) (candidate : Json) (f : Field) : Option Issue :=
  match f.verdict? mode candidate with
  | some (.error i) => some i
  | _ => none

def kept? (mode : Mode) (candidate : Json) (f : Field) : Option Json :=
  match f.verdict? mode candidate with
  | some (.ok value) => value
  | _ => none

end Field

namespace Validator

variable {fields : List Field} (mode : Mode) (candidate : Json)

theorem verdicts_compile (fields : List Field)
    : (compile fields mode).verdicts candidate
        =
      fields.filterMap fun f => (f.verdict? mode candidate).map (f.key, ·) := by
  unfold verdicts compile Field.verdict?
  rw [List.map_filterMap]
  apply List.filterMap_congr
  intro f _
  rw [Field.ofField?_eq]
  cases Rule.ofField? f with
  | none => rfl
  | some rule => rfl

theorem issues_compile (fields : List Field)
    : (compile fields mode).issues candidate
        =
      .ofList (fields.filterMap fun f => (f.failure? mode candidate).map (f.key, ·)) := by
  unfold issues
  rw [verdicts_compile, List.filterMap_filterMap]
  congr 1
  apply List.filterMap_congr
  intro f _
  unfold Field.failure?
  cases f.verdict? mode candidate with
  | none => rfl
  | some verdict => cases verdict <;> rfl

theorem stored_compile (fields : List Field)
    : (compile fields mode).stored candidate
        =
      .ofList (fields.filterMap fun f => (f.kept? mode candidate).map (f.key, ·)) := by
  unfold stored
  rw [verdicts_compile, List.filterMap_filterMap]
  congr 1
  apply List.filterMap_congr
  intro f _
  unfold Field.kept?
  cases f.verdict? mode candidate with
  | none => rfl
  | some verdict =>
    cases verdict with
    | error i => rfl
    | ok value => cases value <;> rfl

theorem get?_stored (h : (fields.map Field.key).Nodup) (k : String)
    : ((compile fields mode).stored candidate).get? k
        =
      (fields.find? (·.key == k)).bind (Field.kept? mode candidate) := by
  rw [stored_compile, KeyMap.get?_ofList_filterMap Field.key _ h]

end Validator

def Suits (fields : List Field) (data : KeyMap Json) : Prop :=
  ∀ k j, data.get? k = some j → ∃ f ∈ fields, f.key = k ∧ f.fitsRule j = true

def issuesOf (fields : List Field) (data : KeyMap Json) : Issues :=
  .ofList (fields.filterMap fun f => (f.issue? data).map (f.key, ·))

def isFaulty (fields : List Field) (data : KeyMap Json) : Bool :=
  fields.any fun f => f.lacksValue data || (f.strayNumber? data).isSome

namespace Suits

variable {fields : List Field} {data : KeyMap Json}

theorem fitsRule (h : Suits fields data) (hkeys : (fields.map Field.key).Nodup) {f : Field}
    (hf : f ∈ fields) {j : Json} (hj : data.get? f.key = some j)
    : f.fitsRule j = true := by
  rcases h _ _ hj with ⟨g, hg, hkey, hfits⟩
  rw [List.inj_on_of_nodup_map hkeys hf hg hkey.symm]
  exact hfits

theorem verdict?_eq (h : Suits fields data) (hkeys : (fields.map Field.key).Nodup) (mode : Mode)
    {f : Field} (hf : f ∈ fields)
    : f.verdict? mode (.ofMap data)
        =
      (FieldRule.ofField? f).map fun _ =>
        match f.issue? data with
        | some i => .error i
        | none => .ok (data.get? f.key) := by
  unfold Field.verdict? Field.issue?
  cases hr : FieldRule.ofField? f with
  | none => rfl
  | some r =>
    rw [Option.map_some, Option.map_some, Option.bind_some]
    congr 1
    apply FieldRule.check_of_fits
    intro j hj
    have hfits := h.fitsRule hkeys hf hj
    unfold Field.fitsRule at hfits
    rw [Field.ofField?_eq] at hr
    rcases Option.map_eq_some_iff.1 hr with ⟨rule, hrule, rfl⟩
    simpa [hrule] using hfits

theorem issues_eq (h : Suits fields data) (hkeys : (fields.map Field.key).Nodup) (mode : Mode)
    : (Validator.compile fields mode).issues (.ofMap data) = issuesOf fields data := by
  rw [Validator.issues_compile]
  unfold issuesOf
  congr 1
  apply List.filterMap_congr
  intro f hf
  unfold Field.failure?
  rw [h.verdict?_eq hkeys mode hf]
  unfold Field.issue?
  cases FieldRule.ofField? f with
  | none => rfl
  | some r =>
    rw [Option.map_some, Option.bind_some]
    cases r.issue? (data.get? f.key) with
    | none => rfl
    | some i => rfl

theorem stored_eq (h : Suits fields data) (hkeys : (fields.map Field.key).Nodup) (mode : Mode)
    (hok : ∀ f ∈ fields, f.issue? data = none)
    : (Validator.compile fields mode).stored (.ofMap data) = data := by
  apply KeyMap.ext_get?
  intro k
  rw [Validator.get?_stored mode _ hkeys]
  cases hfind : fields.find? (·.key == k) with
  | none =>
    cases hk : data.get? k with
    | none => rfl
    | some j =>
      rcases h k j hk with ⟨f, hf, hkey, _⟩
      have := List.find?_eq_none.1 hfind f hf
      simp [hkey] at this
  | some f =>
    rcases (KeyMap.find?_key_eq_some_iff Field.key hkeys).1 hfind with ⟨hf, rfl⟩
    rw [Option.bind_some]
    unfold Field.kept?
    rw [h.verdict?_eq hkeys mode hf, hok f hf]
    cases hr : FieldRule.ofField? f with
    | some r => rfl
    | none =>
      -- Without a rule nothing is stored, and nothing fits that could be lost.
      cases hk : data.get? f.key with
      | none => rfl
      | some j =>
        have hfits := h.fitsRule hkeys hf hk
        unfold Field.fitsRule at hfits
        rw [Field.ofField?_eq, Option.map_eq_none_iff] at hr
        simp [hr] at hfits

theorem issue?_eq (h : Suits fields data) (hkeys : (fields.map Field.key).Nodup) {f : Field}
    (hf : f ∈ fields)
    : f.issue? data
        =
      if f.lacksValue data then some .required else (f.strayNumber? data).map f.rangeIssue := by
  apply Field.issue?_eq
  intro j hj
  exact h.fitsRule hkeys hf hj

theorem get?_issuesOf_iff (h : Suits fields data) (hkeys : (fields.map Field.key).Nodup)
    {key : String} {issue : Issue}
    : (issuesOf fields data).get? key = some issue
        ↔
      ∃ f ∈ fields, f.key = key
        ∧ (f.lacksValue data = true ∧ issue = .required
          ∨ ∃ x, f.strayNumber? data = some x ∧ issue = f.rangeIssue x) := by
  unfold issuesOf
  rw [KeyMap.get?_ofList_filterMap_eq_some_iff Field.key _ hkeys]
  apply exists_congr
  intro f
  apply and_congr_right
  intro hf
  apply and_congr_right
  intro _
  rw [h.issue?_eq hkeys hf]
  cases hlacks : f.lacksValue data with
  | true =>
    -- A missing value is reported first, and a number out of bounds is not missing.
    have hstray : f.strayNumber? data = none := by
      rw [Option.eq_none_iff_forall_ne_some]
      intro x hx
      have := Field.lacksValue_of_strayNumber? (fun j hj => h.fitsRule hkeys hf hj) hx
      simp [hlacks] at this
    simp [hstray, eq_comm]
  | false => simp [Option.map_eq_some_iff, @eq_comm _ issue]

theorem eq_issuesOf_iff (h : Suits fields data) (hkeys : (fields.map Field.key).Nodup)
    {issues : Issues}
    : issues = issuesOf fields data
        ↔
      ∀ key issue, issues.get? key = some issue
        ↔
      ∃ f ∈ fields, f.key = key
        ∧ (f.lacksValue data = true ∧ issue = .required
          ∨ ∃ x, f.strayNumber? data = some x ∧ issue = f.rangeIssue x) := by
  constructor
  . rintro rfl key issue
    exact h.get?_issuesOf_iff hkeys
  . intro hall
    apply KeyMap.ext_get?
    intro key
    apply Option.ext
    intro issue
    rw [hall, h.get?_issuesOf_iff hkeys]

theorem issuesOf_isEmpty_iff (hkeys : (fields.map Field.key).Nodup) (data : KeyMap Json)
    : (issuesOf fields data).isEmpty = true ↔ ∀ f ∈ fields, f.issue? data = none := by
  unfold issuesOf
  apply KeyMap.isEmpty_ofList_filterMap_iff Field.key _ hkeys

theorem issuesOf_isEmpty (h : Suits fields data) (hkeys : (fields.map Field.key).Nodup)
    : (issuesOf fields data).isEmpty = !isFaulty fields data := by
  rw [Bool.eq_iff_iff, issuesOf_isEmpty_iff hkeys]
  unfold isFaulty
  simp only [Bool.not_eq_true', List.any_eq_false]
  apply forall₂_congr
  intro f hf
  rw [h.issue?_eq hkeys hf]
  cases f.lacksValue data with
  | true => simp
  | false => simp

/-- Data that suits the fields is stored as it is or refused, the same way in both modes. -/
theorem validate_eq (h : Suits fields data) (hkeys : (fields.map Field.key).Nodup) (mode : Mode)
    : (Validator.compile fields mode).validate (.ofMap data)
        =
      if isFaulty fields data then .error (issuesOf fields data) else .ok data := by
  unfold Validator.validate
  rw [h.issues_eq hkeys mode]
  dsimp only
  cases hfaulty : isFaulty fields data with
  | true =>
    rw [h.issuesOf_isEmpty hkeys, hfaulty]
    simp
  | false =>
    have hempty := h.issuesOf_isEmpty hkeys
    rw [hfaulty, Bool.not_false] at hempty
    rw [h.stored_eq hkeys mode ((issuesOf_isEmpty_iff hkeys data).1 hempty)]
    simp [hempty]

end Suits

end Counterpart
