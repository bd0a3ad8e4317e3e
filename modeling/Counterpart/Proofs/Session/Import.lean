import Counterpart.Proofs.Import.Run
import Counterpart.Proofs.Session.Reachable

/-!
This module contains what an import does to a session. The run reads the rows against fields that
it grows on its own; the form that the session is left with has the same fields, and so its
validator accepts every submission that the run gives.
-/

namespace Counterpart

namespace Session

variable {s t : Session} {side : Side} {rows : List Row} {mapping : ColumnMapping} {create : Bool}
variable {i : Importer} {outcome : Outcome}

theorem importer_eq_ok_iff
    : s.importer side rows mapping create = .ok i
        ↔
      Importer.of (s.schema side).fields mapping create = .ok i
        ∧ (rows = [] ∨ i.ensureColumns (.ofRows rows rows.length) = .ok ()) := by
  unfold importer
  split
  . next h => simp [h]
  . next j h =>
    rw [h]
    split
    . next hrows =>
      rw [List.isEmpty_iff] at hrows
      simp [hrows]
    . next hrows =>
      rw [List.isEmpty_iff] at hrows
      constructor
      . intro hi
        split at hi
        . cases hi
        . next hcolumns =>
          cases hi
          exact ⟨rfl, .inr hcolumns⟩
      . rintro ⟨hij, hor⟩
        cases hij
        rw [hor.resolve_left hrows]

theorem of_of_importer_eq_ok (h : s.importer side rows mapping create = .ok i)
    : Importer.of (s.schema side).fields mapping create = .ok i :=
  (importer_eq_ok_iff.1 h).1

theorem fields_of_importer_eq_ok (h : s.importer side rows mapping create = .ok i)
    : i.fields = (s.schema side).fields := by
  rw [Importer.eq_of_of_eq_ok (of_of_importer_eq_ok h)]

theorem mapping_of_importer_eq_ok (h : s.importer side rows mapping create = .ok i)
    : i.mapping = mapping := by
  rw [Importer.eq_of_of_eq_ok (of_of_importer_eq_ok h)]

theorem createChoices_of_importer_eq_ok (h : s.importer side rows mapping create = .ok i)
    : i.createChoices = create := by
  rw [Importer.eq_of_of_eq_ok (of_of_importer_eq_ok h)]

theorem nodup_keys_importer (h : s.importer side rows mapping create = .ok i)
    : (i.fields.map Field.key).Nodup := by
  rw [fields_of_importer_eq_ok h]
  apply Schema.nodup_keys

/-- The session grows its schema by the same choices as the run has grown its copy of the fields. -/
theorem grown_eq_targetFields {choices : NewChoices}
    (hi : s.importer side rows mapping create = .ok i)
    (hsome : (i.run rows).newChoices = some choices)
    : s.grown side choices = i.targetFields rows := by
  unfold grown
  rw [Importer.targetFields_of_newChoices_eq_some hsome, fields_of_importer_eq_ok hi]

theorem fields_schema_importRows (hi : s.importer side rows mapping create = .ok i)
    (h : s.importRows side rows mapping create = .ok (outcome, t))
    : (t.schema side).fields = i.targetFields rows := by
  rcases importRows_eq_ok h with
    ⟨j, hj, rfl, ⟨hnone, rfl⟩ | ⟨choices, hsome, schema, hschema, rfl⟩⟩
  . cases hi.symm.trans hj
    rw [Importer.targetFields_of_newChoices_eq_none hnone, fields_of_importer_eq_ok hi]
  . cases hi.symm.trans hj
    unfold Session.schema
    rw [form_setForm, if_pos rfl, ← grown_eq_targetFields hi hsome]
    exact hschema

theorem compiled_importRows (hs : s.Compiled)
    (h : s.importRows side rows mapping create = .ok (outcome, t))
    : t.Compiled := by
  have hperform := hs.perform (.importRows side rows mapping create)
  simp only [perform, h] at hperform
  exact hperform

/-- Every submission that comes of an import is one that the form accepts as it stands afterwards,
and nothing in its data is changed. -/
theorem validate_submission_importRows (hs : s.Reachable)
    (h : s.importRows side rows mapping create = .ok (outcome, t))
    : ∀ j ∈ outcome.submissions, ∃ data, t.validate side j = .ok data ∧ j = .ofMap data := by
  rcases importRows_eq_ok h with ⟨i, hi, hrun, _⟩
  have hkeys := nodup_keys_importer hi
  have hfields := fields_schema_importRows hi h
  intro j hj
  rw [hrun, Importer.submissions_eq_map hkeys, List.mem_map] at hj
  rcases hj with ⟨row, hrow, rfl⟩
  rcases List.mem_filter.1 hrow with ⟨hmem, hgood⟩
  have htarget := Importer.nodup_keys_targetFields hkeys rows
  refine ⟨i.data rows row, ?_, rfl⟩
  unfold validate
  rw [compiled_importRows hs.compiled h side]
  unfold Form.ofSchema
  dsimp only
  rw [hfields, (Importer.suits_data hkeys hmem).validate_eq htarget]
  simp only [Bool.not_eq_true'] at hgood
  simp [hgood]

theorem validate_submission_importRows_stage
    : let stage : Field := { key := "stage", label := "Stage", kind := .select, required := true }
      let seed : Field := { stage with choices := [.ofValue "Seed"] }
      let mapping : ColumnMapping := .ofList [("stage", "Stage")]
      let rows : List Row :=
        [.ofList [("Stage", .string " Seed ")], .ofList [("Stage", .string "")]]
      ∃ (s t : Session) (outcome : Outcome),
        s.Reachable ∧ s.importRows .founder rows mapping true = .ok (outcome, t)
          ∧ (s.schema .founder).fields = [stage] ∧ (t.schema .founder).fields = [seed]
          ∧ outcome.submissions = [.object [("stage", .string "Seed")]]
          ∧ ∀ j ∈ outcome.submissions, ∃ data, t.validate .founder j = .ok data
            ∧ j = .ofMap data := by
  intro stage seed mapping rows
  have hempty : Criteria.empty.Reachable := .load (rfl : Criteria.ofPairings [] = .ok .empty)
  let s : Session :=
    { settings := {}, founder := .ofSchema ⟨[stage], by decide +kernel⟩,
      investor := .ofSchema .empty, criteria := .empty }
  have hcreate : create [stage] [] .empty {} = .ok s := by decide +kernel
  have himport : s.importRows .founder rows mapping true = .ok (
      { submissions := [.object [("stage", .string "Seed")]],
        newChoices := some (.ofList [("stage", [.ofValue "Seed"])]),
        rejected := [{ row := 1, issues := .ofList [("stage", .required)] }] },
      s.setForm .founder (.ofSchema ⟨[seed], by decide +kernel⟩)) := by
    decide +kernel
  have hs := Reachable.create hempty hcreate
  exact ⟨s, _, _, hs, himport, rfl, rfl, rfl, validate_submission_importRows hs himport⟩

end Session

end Counterpart
