import Counterpart.Proofs.Field.Schema
import Counterpart.Proofs.Validation.Fieldwise

/-!
This module contains how the validation of a whole form is put together from validations by each of
its fields alone: all issues are reported and all values are stored, whatever the order of the
fields.
-/

namespace Counterpart

variable {fields others : List Field} {mode : Mode} {candidate : Json} {issues : Issues}
variable {data : KeyMap Json} {key : String} {i : Issue} {j : Json}

namespace Validator

theorem issues_isEmpty_iff (hkeys : (fields.map Field.key).Nodup)
    : ((compile fields mode).issues candidate).isEmpty = true
        ↔
      ∀ f ∈ fields, f.failure? mode candidate = none := by
  rw [issues_compile]
  apply KeyMap.isEmpty_ofList_filterMap_iff Field.key _ hkeys

theorem validate_eq_ok_iff (hkeys : (fields.map Field.key).Nodup)
    : (compile fields mode).validate candidate = .ok data
        ↔
      data = (compile fields mode).stored candidate
        ∧ ∀ f ∈ fields, f.failure? mode candidate = none := by
  rw [← issues_isEmpty_iff hkeys]
  unfold validate
  dsimp only
  split
  . next h => simp [h, eq_comm]
  . next h => simp [h]

theorem validate_eq_error_iff (hkeys : (fields.map Field.key).Nodup)
    : (compile fields mode).validate candidate = .error issues
        ↔
      issues = (compile fields mode).issues candidate
        ∧ ∃ f ∈ fields, ∃ i, f.failure? mode candidate = some i := by
  have hexists : (∃ f ∈ fields, ∃ i, f.failure? mode candidate = some i)
      ↔ ¬ ((compile fields mode).issues candidate).isEmpty = true := by
    rw [issues_isEmpty_iff hkeys]
    simp [← Option.ne_none_iff_exists']
  rw [hexists]
  unfold validate
  dsimp only
  split
  . next h => simp [h]
  . next h => simp [h, eq_comm]

theorem get?_validate_error_iff (hkeys : (fields.map Field.key).Nodup)
    : (∃ issues, (compile fields mode).validate candidate = .error issues
          ∧ issues.get? key = some i)
        ↔
      ∃ f ∈ fields, f.key = key ∧ f.failure? mode candidate = some i := by
  rw [← KeyMap.get?_ofList_filterMap_eq_some_iff Field.key _ hkeys, ← issues_compile]
  simp only [validate_eq_error_iff hkeys, and_assoc, exists_eq_left]
  constructor
  . rintro ⟨_, hi⟩
    exact hi
  . intro hi
    refine ⟨?_, hi⟩
    rw [issues_compile, KeyMap.get?_ofList_filterMap_eq_some_iff Field.key _ hkeys] at hi
    rcases hi with ⟨f, hf, _, hfailure⟩
    exact ⟨f, hf, i, hfailure⟩

theorem get?_of_validate_error (hkeys : (fields.map Field.key).Nodup)
    (h : (compile fields mode).validate candidate = .error issues)
    : issues.get? key = some i
        ↔
      ∃ f ∈ fields, f.key = key ∧ f.failure? mode candidate = some i := by
  rw [← get?_validate_error_iff hkeys, h]
  simp only [Except.error.injEq, exists_eq_left']

theorem get?_validate_ok_iff (hkeys : (fields.map Field.key).Nodup)
    : (∃ data, (compile fields mode).validate candidate = .ok data ∧ data.get? key = some j)
        ↔
      (∀ f ∈ fields, f.failure? mode candidate = none)
        ∧ ∃ f ∈ fields, f.key = key ∧ f.kept? mode candidate = some j := by
  rw [← KeyMap.get?_ofList_filterMap_eq_some_iff Field.key _ hkeys, ← stored_compile]
  simp only [validate_eq_ok_iff hkeys, and_assoc, exists_eq_left]

theorem validate_perm (h : fields.Perm others) (hkeys : (fields.map Field.key).Nodup)
    : (compile fields mode).validate candidate = (compile others mode).validate candidate := by
  have hissues : (compile fields mode).issues candidate = (compile others mode).issues candidate := by
    rw [issues_compile, issues_compile]
    apply KeyMap.ofList_perm
    . apply h.filterMap
    . apply KeyMap.nodup_keys_filterMap Field.key _ hkeys
  have hstored : (compile fields mode).stored candidate = (compile others mode).stored candidate := by
    rw [stored_compile, stored_compile]
    apply KeyMap.ofList_perm
    . apply h.filterMap
    . apply KeyMap.nodup_keys_filterMap Field.key _ hkeys
  unfold validate
  rw [hissues, hstored]

end Validator

namespace Field

def validateAlone (mode : Mode) (candidate : Json) (f : Field) : Except Issues (KeyMap Json) :=
  (Validator.compile [f] mode).validate candidate

variable {f : Field}

theorem nodup_keys_singleton (f : Field) : ([f].map Field.key).Nodup := List.nodup_singleton f.key

theorem failure?_of_kept? (h : f.kept? mode candidate = some j)
    : f.failure? mode candidate = none := by
  unfold kept? at h
  unfold failure?
  split at h
  . next hverdict => rw [hverdict]
  . cases h

theorem exists_validateAlone_error_iff
    : (∃ issues, f.validateAlone mode candidate = .error issues)
        ↔
      ∃ i, f.failure? mode candidate = some i := by
  unfold validateAlone
  simp [Validator.validate_eq_error_iff f.nodup_keys_singleton]

theorem entries_validateAlone_error (h : f.validateAlone mode candidate = .error issues)
    : ∃ i, issues.entries = [(f.key, i)] := by
  unfold validateAlone at h
  rw [Validator.validate_eq_error_iff f.nodup_keys_singleton, Validator.issues_compile] at h
  rcases h with ⟨rfl, g, hg, i, hi⟩
  rw [List.mem_singleton] at hg
  subst hg
  refine ⟨i, ?_⟩
  rw [List.filterMap_cons_some (by rw [hi]; rfl)]
  rfl

theorem get?_validateAlone_error_iff
    : (∃ issues, f.validateAlone mode candidate = .error issues ∧ issues.get? key = some i)
        ↔
      f.key = key ∧ f.failure? mode candidate = some i := by
  unfold validateAlone
  rw [Validator.get?_validate_error_iff f.nodup_keys_singleton]
  simp

theorem get?_validateAlone_ok_iff
    : (∃ data, f.validateAlone mode candidate = .ok data ∧ data.get? key = some j)
        ↔
      f.key = key ∧ f.kept? mode candidate = some j := by
  unfold validateAlone
  rw [Validator.get?_validate_ok_iff f.nodup_keys_singleton]
  simp only [List.mem_singleton, forall_eq, exists_eq_left]
  constructor
  . rintro ⟨_, hkept⟩
    exact hkept
  . intro hkept
    exact ⟨failure?_of_kept? hkept.2, hkept⟩

end Field

/-- A candidate is refused by a form exactly if it is refused by one of its fields alone. All the issues
of the fields are then reported, one for each field that refuses, and otherwise everything is stored
that the fields store. The order of the fields does not matter. -/
theorem validate_fieldwise (s : Schema) (mode : Mode) (candidate : Json)
    : ((∃ issues, (Validator.compile s.fields mode).validate candidate = .error issues)
          ↔
        ∃ f ∈ s.fields, ∃ issues, f.validateAlone mode candidate = .error issues)
      ∧ (∀ f ∈ s.fields, ∀ issues, f.validateAlone mode candidate = .error issues →
          ∃ i, issues.entries = [(f.key, i)])
      ∧ (∀ issues, (Validator.compile s.fields mode).validate candidate = .error issues →
          ∀ key i, issues.get? key = some i
            ↔
          ∃ f ∈ s.fields, ∃ own, f.validateAlone mode candidate = .error own
            ∧ own.get? key = some i)
      ∧ (∀ data, (Validator.compile s.fields mode).validate candidate = .ok data →
          ∀ key j, data.get? key = some j
            ↔
          ∃ f ∈ s.fields, ∃ own, f.validateAlone mode candidate = .ok own
            ∧ own.get? key = some j)
      ∧ ∀ t : Schema, t.fields.Perm s.fields →
          (Validator.compile t.fields mode).validate candidate
            =
          (Validator.compile s.fields mode).validate candidate := by
  have hkeys := s.nodup_keys
  refine ⟨?_, ?_, ?_, ?_, ?_⟩
  . simp only [Validator.validate_eq_error_iff hkeys, Field.exists_validateAlone_error_iff,
      exists_eq_left]
  . intro f _ issues h
    exact Field.entries_validateAlone_error h
  . intro issues h key i
    simp only [Field.get?_validateAlone_error_iff]
    rw [((Validator.validate_eq_error_iff hkeys).1 h).1, Validator.issues_compile]
    apply KeyMap.get?_ofList_filterMap_eq_some_iff Field.key _ hkeys
  . intro data h key j
    simp only [Field.get?_validateAlone_ok_iff]
    rw [((Validator.validate_eq_ok_iff hkeys).1 h).1, Validator.stored_compile]
    apply KeyMap.get?_ofList_filterMap_eq_some_iff Field.key _ hkeys
  . intro t ht
    apply Validator.validate_perm ht
    apply t.nodup_keys

theorem validate_fieldwise_application
    : let name : Field := { key := "name", label := "Name", kind := .text, required := true }
      let raise : Field := { key := "raise", label := "Raise", kind := .number }
      let agree : Field := { key := "agree", label := "Agree", kind := .checkbox }
      let refused : Json :=
        .object [("name", .string " "), ("raise", .string "12"), ("agree", .string "yes")]
      let accepted : Json :=
        .object [("name", .string "Ada"), ("raise", .string "12"), ("agree", .bool true)]
      let issues : Issues := .ofList [("agree", .expectedBoolean), ("name", .required)]
      let data : KeyMap Json :=
        .ofList [("agree", .bool true), ("name", .string "Ada"), ("raise", .ofInt 12)]
      ∃ s t : Schema,
        s.fields = [name, raise, agree] ∧ t.fields = [agree, raise, name]
          ∧ (Validator.compile s.fields .submission).validate refused = .error issues
          ∧ (Validator.compile t.fields .submission).validate refused = .error issues
          ∧ (∀ key i, issues.get? key = some i
              ↔
            ∃ f ∈ s.fields, ∃ own, f.validateAlone .submission refused = .error own
              ∧ own.get? key = some i)
          ∧ (Validator.compile s.fields .submission).validate accepted = .ok data
          ∧ (∀ key j, data.get? key = some j
              ↔
            ∃ f ∈ s.fields, ∃ own, f.validateAlone .submission accepted = .ok own
              ∧ own.get? key = some j) := by
  intro name raise agree refused accepted issues data
  let s : Schema := ⟨[name, raise, agree], by decide +kernel⟩
  let t : Schema := ⟨[agree, raise, name], by decide +kernel⟩
  have hperm : t.fields.Perm s.fields := by decide +kernel
  have hrefused : (Validator.compile s.fields .submission).validate refused = .error issues := by
    decide +kernel
  have haccepted : (Validator.compile s.fields .submission).validate accepted = .ok data := by
    decide +kernel
  rcases validate_fieldwise s .submission refused with ⟨_, _, hissues, _, hreorder⟩
  rcases validate_fieldwise s .submission accepted with ⟨_, _, _, hdata, _⟩
  exact ⟨s, t, rfl, rfl, hrefused, (hreorder t hperm).trans hrefused, hissues issues hrefused,
    haccepted, hdata data haccepted⟩

end Counterpart
