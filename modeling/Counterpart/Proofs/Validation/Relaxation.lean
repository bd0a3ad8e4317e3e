import Counterpart.Proofs.Validation.Coercion

/-!
This module contains when one form accepts whatever another one accepts: if each of its fields does,
and stores the same. Import relaxes submission in this sense, and does so only for words and numbers
that stand for the truth value of a checkbox.
-/

namespace Counterpart

variable {mode other : Mode} {candidate : Json}

namespace FieldRule

/-- A rule decides only about values that are not settled before, and these are the same for all rules
with the same empty values. -/
theorem check_eq_or (r t : FieldRule) (hrequired : t.required = r.required)
    (hempty : ∀ j, t.rule.acceptsEmpty j = r.rule.acceptsEmpty j) (mode other : Mode) (j : Json)
    : t.check other j = r.check mode j
        ∨ (r.check mode j = (r.rule.check mode j).map some
          ∧ t.check other j = (t.rule.check other j).map some) := by
  unfold check
  rw [hrequired, hempty]
  split
  . exact .inl rfl
  . split
    . exact .inl rfl
    . split
      . exact .inl rfl
      . exact .inr ⟨rfl, rfl⟩

end FieldRule

namespace Field

/-- Whether a field, in one mode, has nothing against a candidate that another one has nothing against
in another mode, and stores the same of it. -/
structure Relaxes (candidate : Json) (mode other : Mode) (f g : Field) : Prop where
  key : g.key = f.key
  accepts : f.failure? mode candidate = none →
    g.failure? other candidate = none ∧ g.kept? other candidate = f.kept? mode candidate

end Field

namespace Validator

variable {fields : List Field} {g : Field → Field} {data : KeyMap Json} {issues : Issues}

theorem nodup_keys_map (hkeys : (fields.map Field.key).Nodup)
    (h : ∀ f ∈ fields, f.Relaxes candidate mode other (g f))
    : ((fields.map g).map Field.key).Nodup := by
  have heq : (fields.map g).map Field.key = fields.map Field.key := by
    rw [List.map_map]
    apply List.map_congr_left
    intro f hf
    exact (h f hf).key
  rwa [heq]

theorem validate_ok_of_relaxes (hkeys : (fields.map Field.key).Nodup)
    (h : ∀ f ∈ fields, f.Relaxes candidate mode other (g f))
    (hok : (compile fields mode).validate candidate = .ok data)
    : (compile (fields.map g) other).validate candidate = .ok data := by
  rcases (validate_eq_ok_iff hkeys).1 hok with ⟨rfl, hnone⟩
  apply (validate_eq_ok_iff (nodup_keys_map hkeys h)).2
  refine ⟨?_, ?_⟩
  . rw [stored_compile, stored_compile, List.filterMap_map]
    congr 1
    apply List.filterMap_congr
    intro f hf
    rw [Function.comp_apply, ((h f hf).accepts (hnone f hf)).2, (h f hf).key]
  . intro f' hf'
    rcases List.mem_map.1 hf' with ⟨f, hf, rfl⟩
    exact ((h f hf).accepts (hnone f hf)).1

theorem validate_error_of_relaxes (hkeys : (fields.map Field.key).Nodup)
    (h : ∀ f ∈ fields, f.Relaxes candidate mode other (g f))
    (herror : (compile (fields.map g) other).validate candidate = .error issues)
    : ∃ more, (compile fields mode).validate candidate = .error more
        ∧ ∀ key i, issues.get? key = some i → ∃ l, more.get? key = some l := by
  cases hv : (compile fields mode).validate candidate with
  | ok data =>
    rw [validate_ok_of_relaxes hkeys h hv] at herror
    cases herror
  | error more =>
    refine ⟨more, rfl, ?_⟩
    intro key i hi
    rcases (get?_of_validate_error (nodup_keys_map hkeys h) herror).1 hi with
      ⟨f', hf', rfl, hfailure⟩
    rcases List.mem_map.1 hf' with ⟨f, hf, rfl⟩
    cases hl : f.failure? mode candidate with
    | none =>
      rw [((h f hf).accepts hl).1] at hfailure
      cases hfailure
    | some l =>
      exact ⟨l, (get?_of_validate_error hkeys hv).2 ⟨f, hf, (h f hf).key.symm, hl⟩⟩

end Validator

namespace Rule

theorem check_checkbox_of_ne_bool {j : Json} (h : ∀ b, j ≠ .bool b)
    : check .submission .checkbox j = .error .expectedBoolean := by
  cases j with
  | bool b => exact absurd rfl (h b)
  | null | number | string | array | object => rfl

theorem check_importing (r : Rule) (j : Json)
    : r.check .importing j = r.check .submission j
        ∨ (r = .checkbox ∧ r.check .submission j = .error .expectedBoolean
          ∧ ∃ b, j.Denotes b ∧ r.check .importing j = .ok (.bool b)) := by
  cases r with
  | text form => cases j <;> exact .inl rfl
  | several choices => cases j <;> exact .inl rfl
  | number | single | any => exact .inl rfl
  | checkbox =>
    cases hb : j.asBool? with
    | none =>
      rw [check_checkbox_of_ne_bool]
      . apply Or.inl
        simp only [check, hb]
      . rintro b rfl
        cases hb
    | some b =>
      rcases Json.asBool?_eq_some_iff.1 hb with rfl | hdenotes
      . exact .inl rfl
      . refine .inr ⟨rfl, ?_, b, hdenotes, ?_⟩
        . apply check_checkbox_of_ne_bool
          rintro a rfl
          cases hdenotes
        . simp only [check, hb]

end Rule

theorem FieldRule.check_importing (r : FieldRule) (j : Json)
    : r.check .importing j = r.check .submission j
        ∨ (r.rule = .checkbox ∧ r.check .submission j = .error .expectedBoolean
          ∧ ∃ b, j.Denotes b ∧ r.check .importing j = .ok (some (.bool b))) := by
  rcases check_eq_or r r rfl (fun _ => rfl) .submission .importing j with heq | ⟨hsubmit, himport⟩
  . exact .inl heq
  . rw [hsubmit, himport]
    rcases r.rule.check_importing j with heq | ⟨hrule, herror, b, hb, hok⟩
    . rw [heq]
      exact .inl rfl
    . rw [herror, hok]
      exact .inr ⟨hrule, rfl, b, hb, rfl⟩

namespace Field

variable {f : Field} {i : Issue}

theorem kind_of_ofField?_checkbox (h : Rule.ofField? f = some .checkbox) : f.kind = .checkbox := by
  unfold Rule.ofField? at h
  cases hf : f.kind with
  | checkbox => rfl
  | button | text | textarea | date | file | email | url | phone | number | select | radio
  | multiselect | unknown =>
    rw [hf] at h
    cases h

theorem verdict?_importing (candidate : Json) (f : Field)
    : f.verdict? .importing candidate = f.verdict? .submission candidate
        ∨ (f.kind = .checkbox ∧ f.verdict? .submission candidate = some (.error .expectedBoolean)
          ∧ ∃ j b, candidate.member? f.key = some j ∧ j.Denotes b
            ∧ f.verdict? .importing candidate = some (.ok (some (.bool b)))) := by
  unfold verdict?
  rw [ofField?_eq]
  cases hrule : Rule.ofField? f with
  | none => exact .inl rfl
  | some rule =>
    simp only [Option.map_some]
    rcases FieldRule.check_importing ⟨f.key, f.required, rule⟩
        ((candidate.member? f.key).getD .null) with heq | ⟨hcheckbox, herror, b, hb, hok⟩
    . exact .inl (congrArg some heq)
    . cases hcheckbox
      cases hmember : candidate.member? f.key with
      | none =>
        rw [hmember] at hb
        cases hb
      | some j =>
        rw [hmember] at herror hb hok
        exact .inr ⟨kind_of_ofField?_checkbox hrule, congrArg some herror, j, b, rfl, hb,
          congrArg some hok⟩

theorem relaxes_importing (candidate : Json) (f : Field)
    : f.Relaxes candidate .submission .importing f := by
  refine ⟨rfl, ?_⟩
  unfold failure? kept?
  rcases f.verdict?_importing candidate with heq | ⟨_, herror, _⟩
  . rw [heq]
    intro hnone
    exact ⟨hnone, rfl⟩
  . rw [herror]
    intro hnone
    cases hnone

theorem failure?_submission (h : f.failure? .importing candidate = some i)
    : f.failure? .submission candidate = some i := by
  unfold failure? at h ⊢
  rcases f.verdict?_importing candidate with heq | ⟨_, _, _, _, _, _, hok⟩
  . rwa [heq] at h
  . rw [hok] at h
    cases h

theorem denotes_of_failure?_submission (h : f.failure? .submission candidate = some i)
    (himport : f.failure? .importing candidate ≠ some i)
    : f.kind = .checkbox ∧ i = .expectedBoolean
        ∧ ∃ j b, candidate.member? f.key = some j ∧ j.Denotes b := by
  unfold failure? at h himport
  rcases f.verdict?_importing candidate with heq | ⟨hkind, herror, j, b, hmember, hb, _⟩
  . rw [heq] at himport
    exact absurd h himport
  . rw [herror] at h
    cases h
    exact ⟨hkind, rfl, j, b, hmember, hb⟩

end Field

/-- What is accepted on submission is accepted on import with the same data. What fails on import fails
on submission for the same reason, and what fails on submission alone is a checkbox whose value was
given as a word or a number. -/
theorem validate_importing_relaxes (s : Schema) (candidate : Json)
    : let submitted := (Validator.compile s.fields .submission).validate candidate
      let imported := (Validator.compile s.fields .importing).validate candidate
      (∀ data, submitted = .ok data → imported = .ok data)
        ∧ (∀ issues, imported = .error issues →
          ∃ more, submitted = .error more
            ∧ ∀ key i, issues.get? key = some i → more.get? key = some i)
        ∧ ∀ more, submitted = .error more → ∀ key i, more.get? key = some i →
          (¬ ∃ issues l, imported = .error issues ∧ issues.get? key = some l) →
          ∃ f ∈ s.fields, f.key = key ∧ f.kind = .checkbox ∧ i = .expectedBoolean
            ∧ ∃ j b, candidate.member? key = some j ∧ j.Denotes b := by
  intro submitted imported
  have hkeys := s.nodup_keys
  have hrelaxes : ∀ f ∈ s.fields, f.Relaxes candidate .submission .importing (id f) :=
    fun f _ => f.relaxes_importing candidate
  refine ⟨?_, ?_, ?_⟩
  . intro data h
    have := Validator.validate_ok_of_relaxes hkeys hrelaxes h
    rwa [List.map_id] at this
  . intro issues h
    have herror : (Validator.compile (s.fields.map id) .importing).validate candidate
        = .error issues := by
      rwa [List.map_id]
    rcases Validator.validate_error_of_relaxes hkeys hrelaxes herror with ⟨more, hmore, _⟩
    refine ⟨more, hmore, ?_⟩
    intro key i hi
    rcases (Validator.get?_of_validate_error hkeys h).1 hi with ⟨f, hf, hkey, hfailure⟩
    exact (Validator.get?_of_validate_error hkeys hmore).2
      ⟨f, hf, hkey, Field.failure?_submission hfailure⟩
  . intro more h key i hi himport
    rcases (Validator.get?_of_validate_error hkeys h).1 hi with ⟨f, hf, rfl, hfailure⟩
    have hne : f.failure? .importing candidate ≠ some i := by
      intro hfails
      rcases (Validator.get?_validate_error_iff hkeys).2 ⟨f, hf, rfl, hfails⟩ with
        ⟨issues, hissues, hl⟩
      exact himport ⟨issues, i, hissues, hl⟩
    exact ⟨f, hf, rfl, Field.denotes_of_failure?_submission hfailure hne⟩

theorem validate_importing_relaxes_application
    : let agree : Field := { key := "agree", label := "Agree", kind := .checkbox }
      let news : Field := { key := "news", label := "News", kind := .checkbox, required := true }
      let raise : Field := { key := "raise", label := "Raise", kind := .number }
      let refused : Json :=
        .object [("agree", .string " Yes "), ("news", .ofInt 0), ("raise", .string "much")]
      let accepted : Json := .object [("agree", .bool true), ("news", .bool false)]
      let issues : Issues := .ofList [("raise", .expectedNumber)]
      let more : Issues :=
        .ofList [("agree", .expectedBoolean), ("news", .expectedBoolean), ("raise", .expectedNumber)]
      let data : KeyMap Json := .ofList [("agree", .bool true), ("news", .bool false)]
      ∃ s : Schema,
        s.fields = [agree, news, raise]
          ∧ (Validator.compile s.fields .importing).validate refused = .error issues
          ∧ (Validator.compile s.fields .submission).validate refused = .error more
          ∧ (∀ key i, issues.get? key = some i → more.get? key = some i)
          ∧ (∃ f ∈ s.fields, f.key = "news" ∧ f.kind = .checkbox
            ∧ ∃ j b, refused.member? "news" = some j ∧ j.Denotes b)
          ∧ (Validator.compile s.fields .submission).validate accepted = .ok data
          ∧ (Validator.compile s.fields .importing).validate accepted = .ok data := by
  intro agree news raise refused accepted issues more data
  let s : Schema := ⟨[agree, news, raise], by decide +kernel⟩
  have himport : (Validator.compile s.fields .importing).validate refused = .error issues := by
    decide +kernel
  have hsubmit : (Validator.compile s.fields .submission).validate refused = .error more := by
    decide +kernel
  have hdata : (Validator.compile s.fields .submission).validate accepted = .ok data := by
    decide +kernel
  rcases validate_importing_relaxes s refused with ⟨_, hfails, halone⟩
  refine ⟨s, rfl, himport, hsubmit, ?_, ?_, hdata,
    (validate_importing_relaxes s accepted).1 data hdata⟩
  . rcases hfails issues himport with ⟨own, hown, hkept⟩
    cases hown.symm.trans hsubmit
    exact hkept
  . have hnews : more.get? "news" = some .expectedBoolean := by decide +kernel
    have hnone : issues.get? "news" = none := by decide +kernel
    have honly : ¬ ∃ issues l, (Validator.compile s.fields .importing).validate refused
        = .error issues ∧ issues.get? "news" = some l := by
      rintro ⟨own, l, hown, hl⟩
      cases hown.symm.trans himport
      rw [hnone] at hl
      cases hl
    rcases halone more hsubmit "news" .expectedBoolean hnews honly with
      ⟨f, hf, hkey, hkind, _, hdenotes⟩
    exact ⟨f, hf, hkey, hkind, hdenotes⟩

end Counterpart
