import Counterpart.Proofs.Import.Importer
import Counterpart.Proofs.Import.Repetition
import Counterpart.Proofs.Session.Import

/-!
This module contains when an import into a session is refused and what it changes otherwise. It is
refused for its mapping alone: the form that it leaves is never at fault, because growth appends
choices with new values. Once the form has grown, the same rows do not let it grow again.
-/

namespace Counterpart

open Import

namespace Importer

variable {i : Importer} {rows : List Row} {f : Field}

def appended (i : Importer) (rows : List Row) (f : Field) : Choices :=
  if i.createChoices then (f.newChoices (cells rows i.mapping f)).map Choice.ofValue else []

theorem targetFields_eq_append (hkeys : (i.fields.map Field.key).Nodup) (rows : List Row)
    : i.targetFields rows
        =
      i.fields.map fun f => { f with choices := f.choices ++ i.appended rows f } := by
  rw [targetFields_eq_map hkeys]
  unfold appended
  split
  . simp only [Field.learn_eq]
  . simp

theorem of_appended_ne_nil (h : i.appended rows f ≠ [])
    : i.createChoices = true ∧ f.bearsChoices = true ∧ ∃ column, i.mapping.Maps f.key column := by
  unfold appended at h
  split at h
  . next hcreate =>
    have hnew : f.newChoices (cells rows i.mapping f) ≠ [] := by
      rwa [ne_eq, List.map_eq_nil_iff] at h
    refine ⟨hcreate, ?_, ?_⟩
    . by_contra hf
      exact hnew (Field.newChoices_of_not_bearsChoices hf _)
    . cases hcolumn : i.mapping.columnFor? f.key with
      | some column => exact ⟨column, ColumnMapping.columnFor?_eq_some_iff.1 hcolumn⟩
      | none =>
        unfold cells at hnew
        rw [hcolumn] at hnew
        exact absurd (Field.newChoices_nil f) hnew
  . exact absurd rfl h

theorem firstFault?_targetFields (h : firstFault? [] i.fields = none) (rows : List Row)
    : firstFault? [] (i.targetFields rows) = none := by
  unfold targetFields
  split
  . exact firstFault?_grow h _
  . exact h

end Importer

namespace Session

variable {s t : Session} {side : Side} {rows : List Row} {mapping : ColumnMapping} {create : Bool}
variable {i : Importer} {outcome : Outcome}

theorem exists_importer_iff
    : (∃ i, s.importer side rows mapping create = .ok i)
        ↔
      (∀ key column, mapping.Maps key column →
          ∃ f ∈ (s.schema side).fields, f.key = key ∧ f.carriesData = true)
        ∧ (rows = [] ∨ ∀ key column, mapping.Maps key column →
          ∃ row ∈ rows, ∃ j, KeyMap.get? row column = some j) := by
  simp only [importer_eq_ok_iff, Importer.of_eq_ok_iff (s.schema side).nodup_keys,
    Importer.ensureColumns_eq_ok_iff]
  constructor
  . rintro ⟨i, ⟨rfl, hfields⟩, hcolumns⟩
    exact ⟨hfields, hcolumns⟩
  . rintro ⟨hfields, hcolumns⟩
    exact ⟨_, ⟨rfl, hfields⟩, hcolumns⟩

theorem setSchema_grown {choices : NewChoices}
    (hi : s.importer side rows mapping create = .ok i)
    (hsome : (i.run rows).newChoices = some choices)
    : ∃ t, s.setSchema side (s.grown side choices) = .ok t := by
  have hfaultless : firstFault? [] (i.targetFields rows) = none := by
    apply Importer.firstFault?_targetFields
    rw [fields_of_importer_eq_ok hi]
    exact (s.schema side).faultless
  rw [grown_eq_targetFields hi hsome]
  exact ⟨_, setSchema_of_faultless s side hfaultless⟩

theorem exists_importRows_of_importer (hi : s.importer side rows mapping create = .ok i)
    : ∃ t, s.importRows side rows mapping create = .ok (i.run rows, t) := by
  unfold importRows
  rw [hi]
  dsimp only
  split
  . exact ⟨s, rfl⟩
  . next choices hsome =>
    rcases setSchema_grown hi hsome with ⟨t, ht⟩
    exact ⟨t, by rw [ht]⟩

theorem importRows_eq_error {e : SessionError}
    (h : s.importRows side rows mapping create = .error e)
    : ∃ cause, s.importer side rows mapping create = .error cause ∧ e = .importing cause := by
  cases hi : s.importer side rows mapping create with
  | error cause =>
    unfold importRows at h
    rw [hi] at h
    cases h
    exact ⟨cause, rfl, rfl⟩
  | ok i =>
    rcases exists_importRows_of_importer hi with ⟨t, ht⟩
    rw [h] at ht
    cases ht

theorem importRows_refused_iff
    : (∃ e, s.importRows side rows mapping create = .error e)
        ↔
      ¬ ∃ i, s.importer side rows mapping create = .ok i := by
  constructor
  . rintro ⟨e, he⟩ ⟨i, hi⟩
    rcases importRows_eq_error he with ⟨cause, hcause, _⟩
    rw [hi] at hcause
    cases hcause
  . intro hnot
    cases h : s.importRows side rows mapping create with
    | error e => exact ⟨e, rfl⟩
    | ok result =>
      rcases result with ⟨outcome, t⟩
      rcases importRows_eq_ok h with ⟨i, hi, _⟩
      exact absurd ⟨i, hi⟩ hnot

theorem frame_importRows (h : s.importRows side rows mapping create = .ok (outcome, t))
    : t.form side.opposite = s.form side.opposite ∧ t.criteria = s.criteria
        ∧ t.settings = s.settings := by
  rcases importRows_eq_ok h with ⟨_, _, _, ⟨_, rfl⟩ | ⟨_, _, schema, _, rfl⟩⟩
  . exact ⟨rfl, rfl, rfl⟩
  . refine ⟨?_, criteria_setForm .., settings_setForm ..⟩
    rw [form_setForm, if_neg]
    cases side <;> simp [Side.opposite]

theorem fields_importRows_eq_append
    (h : s.importRows side rows mapping create = .ok (outcome, t))
    : ∃ extra : Field → Choices,
        (t.schema side).fields
            =
          (s.schema side).fields.map (fun f => { f with choices := f.choices ++ extra f })
        ∧ ∀ f, extra f ≠ [] →
          create = true ∧ f.bearsChoices = true ∧ ∃ column, mapping.Maps f.key column := by
  rcases importRows_eq_ok h with ⟨i, hi, _⟩
  have heq := Importer.eq_of_of_eq_ok (of_of_importer_eq_ok hi)
  refine ⟨i.appended rows, ?_, ?_⟩
  . rw [fields_schema_importRows hi h, Importer.targetFields_eq_append (nodup_keys_importer hi)]
    rw [fields_of_importer_eq_ok hi]
  . intro f hf
    have := Importer.of_appended_ne_nil hf
    rwa [heq] at this

/-- An import is refused exactly if a mapped key is not that of a field with data, or there are rows
and a mapped column occurs in none of them; the check of the grown form never refuses it. If it is
refused, nothing changes. If not, the form of its side alone changes, and of that only the choices
of mapped fields, to which some may be appended when choices are created. -/
theorem importRows_refused_or_grows (s : Session) (side : Side) (rows : List Row)
    (mapping : ColumnMapping) (create : Bool)
    : ((∃ e, s.importRows side rows mapping create = .error e)
          ↔
        (∃ key column, mapping.Maps key column
            ∧ ¬ ∃ f ∈ (s.schema side).fields, f.key = key ∧ f.carriesData = true)
          ∨ (rows ≠ [] ∧ ∃ key column, mapping.Maps key column
            ∧ ∀ row ∈ rows, KeyMap.get? row column = none))
      ∧ (∀ i choices, s.importer side rows mapping create = .ok i →
          (i.run rows).newChoices = some choices →
          ∃ t, s.setSchema side (s.grown side choices) = .ok t)
      ∧ (∀ e, s.importRows side rows mapping create = .error e →
          (∃ cause, e = .importing cause)
            ∧ s.perform (.importRows side rows mapping create) = s)
      ∧ ∀ outcome t, s.importRows side rows mapping create = .ok (outcome, t) →
          t.form side.opposite = s.form side.opposite ∧ t.criteria = s.criteria
            ∧ t.settings = s.settings
            ∧ ∃ extra : Field → Choices,
              (t.schema side).fields
                  =
                (s.schema side).fields.map (fun f => { f with choices := f.choices ++ extra f })
              ∧ ∀ f, extra f ≠ [] →
                create = true ∧ f.bearsChoices = true
                  ∧ ∃ column, mapping.Maps f.key column := by
  refine ⟨?_, ?_, ?_, ?_⟩
  . rw [importRows_refused_iff, exists_importer_iff, not_and_or]
    apply or_congr
    . simp only [not_forall, exists_prop]
    . rw [not_or]
      apply and_congr_right
      intro _
      simp only [not_forall, exists_prop, not_exists, not_and, Option.eq_none_iff_forall_ne_some,
        ne_eq]
  . intro i choices hi hsome
    exact setSchema_grown hi hsome
  . intro e he
    rcases importRows_eq_error he with ⟨cause, _, hcause⟩
    refine ⟨⟨cause, hcause⟩, ?_⟩
    simp only [perform]
    rw [he]
    rfl
  . intro outcome t h
    rcases frame_importRows h with ⟨hform, hcriteria, hsettings⟩
    exact ⟨hform, hcriteria, hsettings, fields_importRows_eq_append h⟩

theorem importRows_refused_or_grows_tags
    : let tags : Field :=
        { key := "tags", label := "Tags", kind := .multiselect, choices := [.ofValue "AI"] }
      let rows : List Row := [.ofList [("Tags", .string "ai, Bio")]]
      let labels : ColumnMapping := .ofList [("tags", "Labels")]
      let found : ColumnMapping := .ofList [("tags", "Tags")]
      ∃ s : Session, s.Reachable ∧ (s.schema .investor).fields = [tags]
        ∧ (∃ e, s.importRows .investor rows labels true = .error e)
        ∧ ∃ outcome t, s.importRows .investor rows found true = .ok (outcome, t)
          ∧ (t.schema .investor).fields = [tags.grow [.ofValue "Bio"]]
          ∧ t.form .founder = s.form .founder ∧ t.criteria = s.criteria := by
  intro tags rows labels found
  let s : Session :=
    { settings := {}, founder := .ofSchema .empty,
      investor := .ofSchema ⟨[tags], by decide +kernel⟩, criteria := .empty }
  have hlabels := (importRows_refused_or_grows s .investor rows labels true).1
  have hfound := (importRows_refused_or_grows s .investor rows found true).2.2.2
  have himport : s.importRows .investor rows found true = .ok (
      { submissions := [.object [("tags", Json.strings ["AI", "Bio"])]],
        newChoices := some (.ofList [("tags", [.ofValue "Bio"])]), rejected := [] },
      s.setForm .investor (.ofSchema ⟨[tags.grow [.ofValue "Bio"]], by decide +kernel⟩)) := by
    decide +kernel
  rcases hfound _ _ himport with ⟨hform, hcriteria, _, _⟩
  refine ⟨s, .start rfl _ {}, rfl, hlabels.2 (.inr ⟨by simp [rows], "tags", "Labels", ?_, ?_⟩), _,
    _, himport, rfl, hform, hcriteria⟩
  . exact ⟨by decide +kernel, by decide, by decide⟩
  . decide +kernel

theorem importer_next (hi : s.importer side rows mapping create = .ok i)
    (h : s.importRows side rows mapping create = .ok (outcome, t))
    : t.importer side rows mapping create = .ok (i.next rows) := by
  rw [importer_eq_ok_iff] at hi ⊢
  have hfields := fields_schema_importRows (importer_eq_ok_iff.2 hi) h
  rw [hfields]
  -- The columns are looked for in the rows alone, so the grown fields do not matter for them.
  exact ⟨Importer.of_next hi.1 rows, hi.2⟩

/-- Importing rows again, after their choices have been created, brings the same submissions and
rejections and leaves the session as it is. -/
theorem importRows_again (h : s.importRows side rows mapping true = .ok (outcome, t))
    : t.importRows side rows mapping true = .ok ({ outcome with newChoices := none }, t) := by
  rcases importRows_eq_ok h with ⟨i, hi, rfl, _⟩
  have hrun := Importer.run_next_self (nodup_keys_importer hi) rows
  unfold importRows
  rw [importer_next hi h]
  dsimp only
  rw [hrun]

theorem importRows_again_tags
    : let tags : Field :=
        { key := "tags", label := "Tags", kind := .multiselect, required := true,
          choices := [.ofValue "AI"] }
      let mapping : ColumnMapping := .ofList [("tags", "Tags")]
      let rows : List Row :=
        [.ofList [("Tags", .string "ai, Bio")], .ofList [("Tags", .null)],
          .ofList [("Tags", .array [.string "BIO", .bool true])]]
      ∃ (s t : Session) (outcome : Outcome),
        s.Reachable ∧ (s.schema .founder).fields = [tags]
          ∧ s.importRows .founder rows mapping true = .ok (outcome, t)
          ∧ outcome.submissions
              =
            [.object [("tags", Json.strings ["AI", "Bio"])],
              .object [("tags", Json.strings ["Bio", "true"])]]
          ∧ outcome.newChoices = some (.ofList [("tags", [.ofValue "Bio", .ofValue "true"])])
          ∧ outcome.rejected = [{ row := 1, issues := .ofList [("tags", .required)] }]
          ∧ t.importRows .founder rows mapping true
              =
            .ok ({ outcome with newChoices := none }, t) := by
  intro tags mapping rows
  let s : Session :=
    { settings := {}, founder := .ofSchema ⟨[tags], by decide +kernel⟩,
      investor := .ofSchema .empty, criteria := .empty }
  have himport : s.importRows .founder rows mapping true = .ok (
      { submissions := [.object [("tags", Json.strings ["AI", "Bio"])],
          .object [("tags", Json.strings ["Bio", "true"])]],
        newChoices := some (.ofList [("tags", [.ofValue "Bio", .ofValue "true"])]),
        rejected := [{ row := 1, issues := .ofList [("tags", .required)] }] },
      s.setForm .founder
        (.ofSchema ⟨[tags.grow [.ofValue "Bio", .ofValue "true"]], by decide +kernel⟩)) := by
    decide +kernel
  exact ⟨s, _, _, .start _ rfl {}, rfl, himport, rfl, rfl, rfl, importRows_again himport⟩

end Session

end Counterpart
