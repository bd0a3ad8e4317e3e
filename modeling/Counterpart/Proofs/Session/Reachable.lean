import Counterpart.Proofs.Field.Schema
import Counterpart.Session.Import

/-!
This module contains the sessions that come about: one is created from two lists of fields and the
criteria of some pipeline, and then operations are performed on it, in any order, with those that
are refused leaving it as it is. In all of them the validators are those of the current schemas.
-/

namespace Counterpart

inductive Criteria.Reachable : Criteria → Prop where
  | load {ps : List Pairing} {c : Criteria} : ofPairings ps = .ok c → Reachable c
  | add {c d : Criteria} {founder investor : String}
    : Reachable c → c.add founder investor = .ok d → Reachable d
  | edit {c : Criteria} (founder investor : String) (patch : Patch)
    : Reachable c → Reachable (c.edit founder investor patch)
  | remove {c : Criteria} (founder : String) : Reachable c → Reachable (c.remove founder)

theorem Criteria.reachable_empty : empty.Reachable := .load (rfl : ofPairings [] = .ok empty)

namespace Session

inductive Operation where
  | setSchema (side : Side) (fields : List Field)
  | importRows (side : Side) (rows : List Row) (mapping : ColumnMapping) (createChoices : Bool)
  | map (founder investor : String)
  | edit (founder investor : String) (patch : Patch)
  | remove (founder : String)
  | validate (side : Side) (candidate : Json)

/-- The session after an operation, the same one if the operation is refused. -/
def perform (s : Session) : Operation → Session
  | .setSchema side fields => (s.setSchema side fields).toOption.getD s
  | .importRows side rows mapping createChoices =>
    ((s.importRows side rows mapping createChoices).toOption.map Prod.snd).getD s
  | .map founder investor => ((s.map founder investor).toOption.map Prod.snd).getD s
  | .edit founder investor patch => (s.edit founder investor patch).2
  | .remove founder => (s.remove founder).2
  | .validate _ _ => s

inductive Reachable : Session → Prop where
  | create {founder investor : List Field} {criteria : Criteria} {settings : Settings} {s : Session}
    : criteria.Reachable → create founder investor criteria settings = .ok s → Reachable s
  | perform {s : Session} (op : Operation) : Reachable s → Reachable (s.perform op)

def Compiled (s : Session) : Prop := ∀ side, s.form side = .ofSchema (s.schema side)

variable {s t : Session} {side : Side} {fields : List Field}

@[simp]
theorem form_setForm (s : Session) (side other : Side) (form : Form)
    : (s.setForm side form).form other = if other = side then form else s.form other := by
  cases side with
  | founder =>
    cases other with
    | founder => rfl
    | investor => rfl
  | investor =>
    cases other with
    | founder => rfl
    | investor => rfl

@[simp]
theorem settings_setForm (s : Session) (side : Side) (form : Form)
    : (s.setForm side form).settings = s.settings := by
  cases side <;> rfl

@[simp]
theorem criteria_setForm (s : Session) (side : Side) (form : Form)
    : (s.setForm side form).criteria = s.criteria := by
  cases side <;> rfl

theorem checkSchema_eq_ok {schema : Schema} (h : checkSchema side fields = .ok schema)
    : schema.fields = fields := by
  unfold checkSchema at h
  split at h
  . next hof =>
    cases h
    exact Schema.fields_of_ofFields?_eq_ok hof
  . cases h

theorem setSchema_eq_ok (h : s.setSchema side fields = .ok t)
    : ∃ schema : Schema, schema.fields = fields ∧ t = s.setForm side (.ofSchema schema) := by
  unfold setSchema at h
  split at h
  . cases h
  . next schema hschema =>
    cases h
    exact ⟨schema, checkSchema_eq_ok hschema, rfl⟩

theorem setSchema_of_faultless (s : Session) (side : Side) (h : firstFault? [] fields = none)
    : s.setSchema side fields = .ok (s.setForm side (.ofSchema ⟨fields, h⟩)) := by
  unfold setSchema checkSchema
  rw [Schema.ofFields?_of_faultless h]

theorem create_of_faultless {founder investor : List Field} (hf : firstFault? [] founder = none)
    (hi : firstFault? [] investor = none) (criteria : Criteria) (settings : Settings)
    : create founder investor criteria settings
        =
      .ok { settings, founder := .ofSchema ⟨founder, hf⟩, investor := .ofSchema ⟨investor, hi⟩,
            criteria } := by
  unfold create checkSchema
  rw [Schema.ofFields?_of_faultless hf, Schema.ofFields?_of_faultless hi]

theorem importRows_eq_ok {rows : List Row} {mapping : ColumnMapping} {create : Bool}
    {outcome : Outcome} (h : s.importRows side rows mapping create = .ok (outcome, t))
    : ∃ i, s.importer side rows mapping create = .ok i ∧ outcome = i.run rows
        ∧ (outcome.newChoices = none ∧ t = s
          ∨ ∃ choices, outcome.newChoices = some choices
            ∧ ∃ schema : Schema, schema.fields = s.grown side choices
              ∧ t = s.setForm side (.ofSchema schema)) := by
  unfold importRows at h
  split at h
  . cases h
  . next i hi =>
    dsimp only at h
    refine ⟨i, hi, ?_⟩
    split at h
    . next hnone =>
      cases h
      exact ⟨rfl, .inl ⟨hnone, rfl⟩⟩
    . next choices hsome =>
      split at h
      . cases h
      . next hset =>
        cases h
        exact ⟨rfl, .inr ⟨choices, hsome, setSchema_eq_ok hset⟩⟩

theorem map_eq_ok {founder investor : String} {p : Pairing}
    (h : s.map founder investor = .ok (p, t))
    : s.checkPair founder investor = .ok ()
        ∧ ∃ added, s.criteria.add founder investor = .ok added
          ∧ t.criteria.get? founder = some p
          ∧ t = { s with criteria :=
              match s.defaultPatch? with
              | some patch => added.edit founder investor patch
              | none => added } := by
  unfold map at h
  split at h
  . cases h
  . next hpair =>
    split at h
    . cases h
    . next added hadd =>
      dsimp only at h
      split at h
      . next hget =>
        cases h
        exact ⟨hpair, added, hadd, hget, rfl⟩
      . cases h

/-- What an operation can do: nothing, compile a form anew, or change the criteria. -/
theorem perform_cases (s : Session) (op : Operation)
    : s.perform op = s
        ∨ (∃ side schema, s.perform op = s.setForm side (.ofSchema schema))
        ∨ ∃ criteria : Criteria, (s.criteria.Reachable → criteria.Reachable)
          ∧ s.perform op = { s with criteria } := by
  cases op with
  | setSchema side fields =>
    simp only [perform]
    cases h : s.setSchema side fields with
    | error e => exact .inl rfl
    | ok t =>
      rcases setSchema_eq_ok h with ⟨schema, _, rfl⟩
      exact .inr (.inl ⟨side, schema, rfl⟩)
  | importRows side rows mapping createChoices =>
    simp only [perform]
    cases h : s.importRows side rows mapping createChoices with
    | error e => exact .inl rfl
    | ok result =>
      rcases importRows_eq_ok h with ⟨_, _, _, ⟨_, hsame⟩ | ⟨_, _, schema, _, hset⟩⟩
      . exact .inl hsame
      . exact .inr (.inl ⟨side, schema, hset⟩)
  | map founder investor =>
    simp only [perform]
    cases h : s.map founder investor with
    | error e => exact .inl rfl
    | ok result =>
      rcases map_eq_ok h with ⟨_, added, hadd, _, hmap⟩
      refine .inr (.inr ⟨_, ?_, hmap⟩)
      intro hs
      split
      . exact (hs.add hadd).edit _ _ _
      . exact hs.add hadd
  | edit founder investor patch =>
    exact .inr (.inr ⟨_, fun hs => hs.edit founder investor patch, rfl⟩)
  | remove founder => exact .inr (.inr ⟨_, fun hs => hs.remove founder, rfl⟩)
  | validate side candidate => exact .inl rfl

theorem create_eq_ok {founder investor : List Field} {criteria : Criteria} {settings : Settings}
    (h : create founder investor criteria settings = .ok s)
    : ∃ f i : Schema, f.fields = founder ∧ i.fields = investor
        ∧ s = { settings, founder := .ofSchema f, investor := .ofSchema i, criteria } := by
  unfold create at h
  split at h
  . cases h
  . next f hf =>
    split at h
    . cases h
    . next i hi =>
      cases h
      exact ⟨f, i, checkSchema_eq_ok hf, checkSchema_eq_ok hi, rfl⟩

theorem compiled_of_create_eq_ok {founder investor : List Field} {criteria : Criteria}
    {settings : Settings} (h : create founder investor criteria settings = .ok s)
    : s.Compiled := by
  rcases create_eq_ok h with ⟨f, i, _, _, rfl⟩
  intro side
  cases side with
  | founder => rfl
  | investor => rfl

theorem Compiled.perform (hs : s.Compiled) (op : Operation) : (s.perform op).Compiled := by
  intro side
  rcases s.perform_cases op with hsame | ⟨other, schema, hset⟩ | ⟨criteria, _, hcriteria⟩
  . rw [hsame]
    exact hs side
  . rw [hset]
    unfold Session.schema
    rw [form_setForm]
    split
    . rfl
    . exact hs side
  . rw [hcriteria]
    cases side with
    | founder => exact hs .founder
    | investor => exact hs .investor

theorem Reachable.run (h : s.Reachable) (operations : List Operation)
    : (operations.foldl Session.perform s).Reachable := by
  induction operations generalizing s with
  | nil => exact h
  | cons op operations ih => exact ih (h.perform op)

theorem Reachable.start {founder investor : List Field} (hf : firstFault? [] founder = none)
    (hi : firstFault? [] investor = none) (settings : Settings)
    : Reachable
        { settings, founder := .ofSchema ⟨founder, hf⟩, investor := .ofSchema ⟨investor, hi⟩,
          criteria := .empty } :=
  .create Criteria.reachable_empty (create_of_faultless hf hi .empty settings)

theorem Reachable.compiled (h : s.Reachable) : s.Compiled := by
  induction h with
  | create _ h => exact compiled_of_create_eq_ok h
  | perform op _ ih => exact ih.perform op

end Session

end Counterpart
