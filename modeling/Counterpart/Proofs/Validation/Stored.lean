import Counterpart.Proofs.Validation.Coercion

/-!
This module contains that validation neither loses nor invents data. What is stored of a candidate
that is accepted are the values that it has for the fields with data, and members of other names
have no influence on that.
-/

namespace Counterpart

open Numeric

variable {fields : List Field} {mode : Mode} {candidate other : Json} {data : KeyMap Json}
variable {f : Field} {key : String}

namespace Validator

theorem get?_of_validate (hkeys : (fields.map Field.key).Nodup)
    (h : (compile fields mode).validate candidate = .ok data) (hf : f ∈ fields)
    : data.get? f.key = f.kept? mode candidate := by
  rw [((validate_eq_ok_iff hkeys).1 h).1, get?_stored mode candidate hkeys,
    (KeyMap.find?_key_eq_some_iff Field.key hkeys).2 ⟨hf, rfl⟩, Option.bind_some]

theorem exists_kept?_of_validate (hkeys : (fields.map Field.key).Nodup)
    (h : (compile fields mode).validate candidate = .ok data) {k : Json}
    (hk : data.get? key = some k)
    : ∃ f ∈ fields, f.key = key ∧ f.kept? mode candidate = some k :=
  ((get?_validate_ok_iff hkeys).1 ⟨data, h, hk⟩).2

theorem suits_of_validate (hkeys : (fields.map Field.key).Nodup)
    (h : (compile fields mode).validate candidate = .ok data)
    : Suits fields data := by
  intro key k hk
  rcases exists_kept?_of_validate hkeys h hk with ⟨f, hf, hkey, hkept⟩
  rcases Field.kept?_eq_some hkept with ⟨rule, j, hrule, _, _, _, hfits⟩
  refine ⟨f, hf, hkey, ?_⟩
  rwa [Field.fitsRule_eq hrule]

theorem issue?_of_validate (hkeys : (fields.map Field.key).Nodup)
    (h : (compile fields mode).validate candidate = .ok data)
    : ∀ f ∈ fields, f.issue? data = none := by
  intro f hf
  apply Field.issue?_of_failure?
  . exact ((validate_eq_ok_iff hkeys).1 h).2 f hf
  . exact get?_of_validate hkeys h hf

theorem validate_congr
    (h : ∀ f ∈ fields, f.carriesData = true → other.member? f.key = candidate.member? f.key)
    : (compile fields mode).validate other = (compile fields mode).validate candidate := by
  have hverdicts : (compile fields mode).verdicts other = (compile fields mode).verdicts candidate := by
    rw [verdicts_compile, verdicts_compile]
    apply List.filterMap_congr
    intro f hf
    unfold Field.verdict?
    rw [Field.ofField?_eq]
    cases hrule : Rule.ofField? f with
    | none => rfl
    | some rule => rw [h f hf (Field.carriesData_of_ofField? hrule)]
  unfold validate issues stored
  rw [hverdicts]

end Validator

/-- Of a candidate that is accepted exactly the values are stored that it has for fields with data,
`null` being none, each as it is unless its field has another form for it. That form of a numeric text
is the number that it denotes. Members that belong to no field with data do not matter. -/
theorem validate_keeps_values (s : Schema) (mode : Mode) (candidate : Json)
    : (∀ data, (Validator.compile s.fields mode).validate candidate = .ok data →
          (∀ key, (∃ k, data.get? key = some k)
              ↔
            ∃ f ∈ s.fields, f.key = key ∧ f.carriesData = true
              ∧ ∃ j, candidate.member? key = some j ∧ j ≠ .null)
          ∧ ∀ key k, data.get? key = some k →
            ∃ f ∈ s.fields, f.key = key ∧ ∃ j, candidate.member? key = some j
              ∧ (f.Coerces mode j k ∨ (k = j ∧ ∀ l, ¬ f.Coerces mode j l)))
      ∧ (∀ x : Finite double, (Number.ofDouble x).toDouble.units = x.units)
      ∧ ∀ other : Json,
          (∀ f ∈ s.fields, f.carriesData = true →
            other.member? f.key = candidate.member? f.key) →
          (Validator.compile s.fields mode).validate other
            =
          (Validator.compile s.fields mode).validate candidate := by
  have hkeys := s.nodup_keys
  refine ⟨?_, Number.units_toDouble_ofDouble, fun other h => Validator.validate_congr h⟩
  intro data h
  refine ⟨?_, ?_⟩
  . intro key
    constructor
    . rintro ⟨k, hk⟩
      rcases Validator.exists_kept?_of_validate hkeys h hk with ⟨f, hf, rfl, hkept⟩
      rcases Field.kept?_eq_some hkept with ⟨rule, j, hrule, hmember, hj, _, _⟩
      exact ⟨f, hf, rfl, Field.carriesData_of_ofField? hrule, j, hmember, hj⟩
    . rintro ⟨f, hf, rfl, hdata, j, hmember, hj⟩
      rw [Validator.get?_of_validate hkeys h hf]
      have hfailure := ((Validator.validate_eq_ok_iff hkeys).1 h).2 f hf
      exact Field.exists_kept?_of_failure? hfailure hdata hmember hj
  . intro key k hk
    rcases Validator.exists_kept?_of_validate hkeys h hk with ⟨f, hf, rfl, hkept⟩
    rcases Field.kept?_eq_some hkept with ⟨rule, j, hrule, hmember, _, hstored, _⟩
    exact ⟨f, hf, rfl, j, hmember, (Field.eq_getD_coerce?_iff hrule).1 hstored⟩

theorem validate_keeps_values_application
    : let raise : Field := { key := "raise", label := "Raise", kind := .number }
      let agree : Field := { key := "agree", label := "Agree", kind := .checkbox }
      let name : Field := { key := "name", label := "Name", kind := .text }
      let submit : Field := { key := "submit", label := "Submit", kind := .button }
      let candidate : Json :=
        .object [("raise", .string " 1e1 "), ("agree", .string "YES"), ("name", .null),
          ("submit", .bool true), ("note", .string "12")]
      let other : Json :=
        .object [("raise", .string " 1e1 "), ("agree", .string "YES"), ("name", .null)]
      let data : KeyMap Json := .ofList [("agree", .bool true), ("raise", .ofInt 10)]
      ∃ s : Schema,
        s.fields = [raise, agree, name, submit]
          ∧ (Validator.compile s.fields .importing).validate candidate = .ok data
          ∧ (∀ key, (∃ k, data.get? key = some k)
              ↔
            ∃ f ∈ s.fields, f.key = key ∧ f.carriesData = true
              ∧ ∃ j, candidate.member? key = some j ∧ j ≠ .null)
          ∧ (∀ key k, data.get? key = some k →
            ∃ f ∈ s.fields, f.key = key ∧ ∃ j, candidate.member? key = some j
              ∧ (f.Coerces .importing j k ∨ (k = j ∧ ∀ l, ¬ f.Coerces .importing j l)))
          ∧ (Validator.compile s.fields .importing).validate other = .ok data := by
  intro raise agree name submit candidate other data
  let s : Schema := ⟨[raise, agree, name, submit], by decide +kernel⟩
  have hdata : (Validator.compile s.fields .importing).validate candidate = .ok data := by
    decide +kernel
  rcases validate_keeps_values s .importing candidate with ⟨hstored, _, hcongr⟩
  rcases hstored data hdata with ⟨hpresent, hvalues⟩
  have hother : ∀ f ∈ s.fields, f.carriesData = true →
      other.member? f.key = candidate.member? f.key := by
    decide +kernel
  exact ⟨s, rfl, hdata, hpresent, hvalues, (hcongr other hother).trans hdata⟩

end Counterpart
