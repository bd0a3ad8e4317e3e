import Mathlib.Algebra.GroupWithZero.Nat
import Counterpart.Log.Setup
import Counterpart.Proofs.Session.Growth

/-!
This module contains what the log tells of the data that pass through a session, as long as values
are hidden. What validating reports follows from the codes of the issues, and what an import reports
from counts: how many choices each field gained, and how many issues each rejected row has.
-/

namespace Counterpart

open Import Log

namespace Validator

theorem length_rules_compile (fields : List Field) (mode : Mode)
    : (compile fields mode).rules.length = fields.countP Field.carriesData := by
  unfold compile
  dsimp only
  rw [List.length_filterMap_eq_countP]
  congr 1
  funext f
  rw [Field.ofField?_eq, Option.isSome_map, Field.isSome_ofField?]

theorem compileEvents_grow (fields : List Field) (extra : NewChoices) (mode : Mode)
    : compileEvents (grow fields extra) mode = compileEvents fields mode := by
  unfold compileEvents
  rw [length_rules_compile, length_rules_compile]
  unfold grow
  rw [List.filterMap_map, List.countP_map]
  rfl

end Validator

/-- What an outcome tells without any value: how many choices each field gained, and how many issues
each rejected row has. -/
structure Tally where
  gained : Option (KeyMap Nat)
  rejected : List (Nat × Nat)
  deriving DecidableEq

def Tally.runReport (t : Tally) (fields : List Field) (create : Bool) (rows : Nat) : List Event :=
  let found := t.gained.getD ∅
  (if create then [.choicesDiscovered found.size found.values.sum] else [])
    ++ Validator.compileEvents fields .importing
    ++ t.rejected.flatMap (fun (row, issues) => [.candidateFailed issues, .rowRejected row issues])
    ++ [.imported rows (rows - t.rejected.length) t.rejected.length create]

def Tally.importReport (t : Tally) (side : Side) (fields : List Field) (create : Bool) (rows : Nat)
    : List Event :=
  t.runReport fields create rows ++
    match t.gained with
    | none => []
    | some _ => .schemaReplaced side fields.length :: Validator.compileEvents fields .submission

namespace Outcome

def tally (o : Outcome) : Tally where
  gained := o.newChoices.map fun choices => choices.map List.length
  rejected := o.rejected.map fun r => (r.row, r.issues.size)

theorem length_rejected_tally (o : Outcome) : o.tally.rejected.length = o.rejected.length := by
  apply List.length_map

theorem gained_tally_getD (o : Outcome)
    : o.tally.gained.getD ∅ = (o.newChoices.getD ∅).map List.length := by
  unfold tally
  cases o.newChoices with
  | none => rfl
  | some choices => rfl

end Outcome

namespace Importer

variable {i : Importer} {rows : List Row}

theorem compileEvents_targetFields (i : Importer) (rows : List Row) (mode : Mode)
    : Validator.compileEvents (i.targetFields rows) mode
        =
      Validator.compileEvents i.fields mode := by
  unfold targetFields
  split
  . apply Validator.compileEvents_grow
  . rfl

theorem newChoices_run_getD (hcreate : i.createChoices = true) (rows : List Row)
    : (i.run rows).newChoices.getD ∅ = i.discovered rows := by
  cases h : (i.run rows).newChoices with
  | none =>
    have hempty := isEmpty_discovered_of_newChoices_eq_none h hcreate
    rw [KeyMap.eq_empty_of_isEmpty hempty, Option.getD_none]
  | some choices => exact (discovered_of_newChoices_eq_some h).2.symm

theorem runEvents_eq (i : Importer) (rows : List Row)
    : i.runEvents rows = (i.run rows).tally.runReport i.fields i.createChoices rows.length := by
  have haccepted : (i.run rows).submissions.length
      = rows.length - (i.run rows).rejected.length := by
    have := i.length_submissions_add_length_rejected rows
    omega
  unfold runEvents Tally.runReport
  dsimp only
  rw [compileEvents_targetFields, Outcome.length_rejected_tally, haccepted]
  rw [Outcome.gained_tally_getD, KeyMap.size_map, KeyMap.values_map]
  congr 2
  . congr 1
    split
    . next hcreate => rw [newChoices_run_getD hcreate, List.length_flatten]
    . rfl
  . unfold Outcome.tally
    rw [List.flatMap_map]

end Importer

namespace Session

def failureCodes : Except Issues (KeyMap Json) → Option (KeyMap String)
  | .ok _ => none
  | .error issues => some issues.codes

def failureReport (side : Side) : Option (KeyMap String) → List Event
  | none => []
  | some codes =>
    .candidateFailed codes.size
      :: codes.entries.map fun (key, code) => .fieldRejected side key code redacted

variable {log : Log.State} {s t : Session} {side : Side} {fields : List Field}
variable {rows : List Row} {mapping : ColumnMapping} {create : Bool} {outcome : Outcome}

theorem validateEvents_eq (hlog : log.showsData = false) (s : Session) (side : Side) (j : Json)
    : s.validateEvents log.redact side j
        =
      failureReport side (failureCodes (s.validate side j)) := by
  have hredact : ∀ value, log.redact value = redacted := by
    intro value
    unfold State.redact
    rw [hlog]
    rfl
  unfold validateEvents Validator.validateEvents validate
  cases (s.form side).validator.validate j with
  | ok data => rfl
  | error issues =>
    simp only [hredact, failureCodes, failureReport, Issues.codes, KeyMap.size_map]
    simp [KeyMap.map]

theorem setSchemaEvents_of_setSchema (h : s.setSchema side fields = .ok t)
    : setSchemaEvents side fields
        =
      .schemaReplaced side fields.length :: Validator.compileEvents fields .submission := by
  unfold setSchema at h
  split at h
  . cases h
  . next schema hschema =>
    have hfields : schema.fields = fields := checkSchema_eq_ok hschema
    unfold setSchemaEvents Form.compileEvents Schema.size
    rw [hschema, ← hfields]

theorem importEvents_eq (h : s.importRows side rows mapping create = .ok (outcome, t))
    : s.importEvents side rows mapping create
        =
      outcome.tally.importReport side (s.schema side).fields create rows.length := by
  rcases importRows_eq_ok h with ⟨i, hi, rfl, _⟩
  unfold importEvents Tally.importReport
  rw [hi]
  dsimp only
  rw [Importer.runEvents_eq, fields_of_importer_eq_ok hi, createChoices_of_importer_eq_ok hi]
  congr 1
  unfold Outcome.tally
  cases hnew : (i.run rows).newChoices with
  | none => rfl
  | some choices =>
    rcases setSchema_grown hi hnew with ⟨u, hu⟩
    rw [Option.map_some]
    dsimp only
    rw [setSchemaEvents_of_setSchema hu]
    unfold grown
    rw [Validator.compileEvents_grow]
    simp [grow]

theorem importEvents_of_importRows_eq_error {e : SessionError}
    (h : s.importRows side rows mapping create = .error e)
    : s.importEvents side rows mapping create = [] := by
  rcases importRows_eq_error h with ⟨cause, hcause, _⟩
  unfold importEvents
  rw [hcause]

/-- As long as values are hidden, candidates that fail by the same codes are reported alike, and so
are imports of as many rows after which each field has gained as many choices and the same rows are
rejected with as many issues. An import that is refused reports nothing. -/
theorem events_hide_values (hlog : log.showsData = false) (s : Session) (side : Side)
    : (∀ j k, failureCodes (s.validate side j) = failureCodes (s.validate side k) →
          s.validateEvents log.redact side j = s.validateEvents log.redact side k)
        ∧ (∀ mapping create rows more outcome other t u, rows.length = more.length →
          s.importRows side rows mapping create = .ok (outcome, t) →
          s.importRows side more mapping create = .ok (other, u) →
          outcome.tally = other.tally →
          s.importEvents side rows mapping create = s.importEvents side more mapping create)
        ∧ ∀ mapping create rows e, s.importRows side rows mapping create = .error e →
          s.importEvents side rows mapping create = [] := by
  refine ⟨?_, ?_, ?_⟩
  . intro j k hcodes
    rw [validateEvents_eq hlog, validateEvents_eq hlog, hcodes]
  . intro mapping create rows more outcome other t u hlength h hother htally
    rw [importEvents_eq h, importEvents_eq hother, htally, hlength]
  . intro mapping create rows e h
    exact importEvents_of_importRows_eq_error h

theorem events_hide_values_contact
    : let email : Field := { key := "email", label := "Email", kind := .email, required := true }
      let tags : Field :=
        { key := "tags", label := "Tags", kind := .multiselect, choices := [.ofValue "AI"] }
      let mapping : ColumnMapping := .ofList [("email", "Email"), ("tags", "Tags")]
      let rows : List Row :=
        [.ofList [("Email", .string "ada@acme.io"), ("Tags", .string "ai, Bio")],
          .ofList [("Email", .string "ada")]]
      let more : List Row :=
        [.ofList [("Email", .string "eve@acme.io"), ("Tags", .string "Robotics")],
          .ofList [("Email", .null), ("Tags", .string "AI")]]
      let j := Json.object [("email", .string "ada at acme")]
      let k := Json.object [("email", .string "eve"), ("tags", Json.strings ["AI"])]
      ∃ s : Session, s.Reachable ∧ (s.schema .founder).fields = [email, tags]
        ∧ s.validateEvents ({} : Log.State).redact .founder j
            =
          s.validateEvents ({} : Log.State).redact .founder k
        ∧ s.validateEvents ({} : Log.State).redact .founder k
            =
          [.candidateFailed 1, .fieldRejected .founder "email" "invalid_email" redacted]
        ∧ s.importEvents .founder rows mapping true = s.importEvents .founder more mapping true
        ∧ s.importEvents .founder more mapping true
            =
          [.choicesDiscovered 1 1, .compiled 2 .importing, .candidateFailed 1, .rowRejected 1 1,
            .imported 2 1 1 true, .schemaReplaced .founder 2, .compiled 2 .submission] := by
  intro email tags mapping rows more j k
  let s : Session :=
    { settings := {}, founder := .ofSchema ⟨[email, tags], by decide +kernel⟩,
      investor := .ofSchema .empty, criteria := .empty }
  have himport : s.importRows .founder rows mapping true = .ok (
      { submissions := [.object [("email", .string "ada@acme.io"),
          ("tags", Json.strings ["AI", "Bio"])]],
        newChoices := some (.ofList [("tags", [.ofValue "Bio"])]),
        rejected := [{ row := 1, issues := .ofList [("email", .required)] }] },
      s.setForm .founder
        (.ofSchema ⟨[email, tags.grow [.ofValue "Bio"]], by decide +kernel⟩)) := by
    decide +kernel
  have hother : s.importRows .founder more mapping true = .ok (
      { submissions := [.object [("email", .string "eve@acme.io"),
          ("tags", Json.strings ["Robotics"])]],
        newChoices := some (.ofList [("tags", [.ofValue "Robotics"])]),
        rejected := [{ row := 1, issues := .ofList [("email", .required)] }] },
      s.setForm .founder
        (.ofSchema ⟨[email, tags.grow [.ofValue "Robotics"]], by decide +kernel⟩)) := by
    decide +kernel
  have hlog : ({} : Log.State).showsData = false := rfl
  have ⟨hvalidate, himports, _⟩ := events_hide_values hlog s .founder
  refine ⟨s, .start _ rfl {}, rfl, hvalidate j k (by decide +kernel), by decide +kernel, ?_,
    by decide +kernel⟩
  exact himports mapping true rows more _ _ _ _ rfl himport hother (by decide +kernel)

end Session

end Counterpart
