import Counterpart.Proofs.Import.Run

/-!
This module contains imports in batches: importing the rows of an upload one part after the other,
each into the fields that the part before has grown, comes to the same as importing all of them at
once.
-/

namespace Counterpart

open Import

theorem Field.issue?_learn (f : Field) (values : List Json) (data : KeyMap Json)
    : (f.learn values).issue? data = f.issue? data := by
  unfold issue?
  rw [ofField?_eq, ofField?_eq]
  unfold Rule.ofField?
  rw [learn_kind]
  cases f.kind with
  | select | radio | multiselect => rfl
  | text | email | number | textarea | checkbox | date | file | url | phone | button | unknown =>
    rfl

def Outcome.grow (o : Outcome) (fields : List Field) : List Field :=
  match o.newChoices with
  | none => fields
  | some choices => Import.grow fields choices

def Rejection.shift (n : Nat) (r : Rejection) : Rejection := { r with row := r.row + n }

namespace Importer

variable {fields : List Field} {mapping : ColumnMapping} {create : Bool} {i : Importer}
variable {rows more : List Row} {row : Row}

theorem grow_run (i : Importer) (rows : List Row)
    : (i.run rows).grow i.fields = i.targetFields rows := by
  unfold Outcome.grow
  split
  . next h => rw [targetFields_of_newChoices_eq_none h]
  . next h => rw [targetFields_of_newChoices_eq_some h]

def next (i : Importer) (rows : List Row) : Importer := { i with fields := i.targetFields rows }

theorem targetFields_append (hkeys : (i.fields.map Field.key).Nodup) (rows more : List Row)
    : i.targetFields (rows ++ more)
        =
      if i.createChoices then
        (i.targetFields rows).map fun f => f.learn (cells more i.mapping f)
      else
        i.targetFields rows := by
  cases hcreate : i.createChoices with
  | false =>
    unfold targetFields
    simp [hcreate]
  | true =>
    unfold targetFields discovered
    rw [hcreate, if_pos rfl, if_pos rfl, if_pos rfl, grow_discover_append hkeys]
    rw [grow_discover hkeys]

theorem targetFields_next (hkeys : (i.fields.map Field.key).Nodup) (rows more : List Row)
    : (i.next rows).targetFields more = i.targetFields (rows ++ more) := by
  rw [targetFields_append hkeys, targetFields_eq_map]
  . rfl
  . exact nodup_keys_targetFields hkeys rows

/-- Choices discovered later do not change what is read from earlier rows. -/
theorem data_append (hkeys : (i.fields.map Field.key).Nodup) (hrow : row ∈ rows)
    : i.data (rows ++ more) row = i.data rows row := by
  -- Without choices being created, all that counts is which values the texts of the row stand for.
  rw [data_eq_strict hkeys (List.mem_append_left more hrow), data_eq_strict hkeys hrow]
  rw [targetFields_append hkeys]
  cases hcreate : i.createChoices with
  | false => rfl
  | true =>
    rw [if_pos rfl]
    apply Row.transform_map
    . intro f
      rfl
    . intro f hf j hcell
      apply Field.transform?_learn
      exact namesChoice_targetFields hkeys hcreate hrow hf hcell

theorem isFaulty_append (hkeys : (i.fields.map Field.key).Nodup) (data : KeyMap Json)
    : isFaulty (i.targetFields (rows ++ more)) data = isFaulty (i.targetFields rows) data := by
  rw [targetFields_append hkeys]
  split
  . unfold isFaulty
    rw [List.any_map]
    rfl
  . rfl

theorem issuesOf_append (hkeys : (i.fields.map Field.key).Nodup) (data : KeyMap Json)
    : issuesOf (i.targetFields (rows ++ more)) data = issuesOf (i.targetFields rows) data := by
  rw [targetFields_append hkeys]
  split
  . unfold issuesOf
    rw [List.filterMap_map]
    congr 1
    apply List.filterMap_congr
    intro f _
    rw [Function.comp_apply, Field.issue?_learn, Field.learn_key]
  . rfl

theorem importRow_append (hkeys : (i.fields.map Field.key).Nodup) (hrow : row ∈ rows)
    : i.importRow (i.targetFields (rows ++ more)) row = i.importRow (i.targetFields rows) row := by
  rw [importRow_eq hkeys (List.mem_append_left more hrow), importRow_eq hkeys hrow]
  rw [data_append hkeys hrow, isFaulty_append hkeys, issuesOf_append hkeys]

theorem verdicts_append (hkeys : (i.fields.map Field.key).Nodup) (rows more : List Row)
    : (rows ++ more).map (i.importRow (i.targetFields (rows ++ more)))
        =
      rows.map (i.importRow (i.targetFields rows))
        ++ more.map ((i.next rows).importRow ((i.next rows).targetFields more)) := by
  rw [List.map_append, targetFields_next hkeys]
  congr 1
  apply List.map_congr_left
  intro row hrow
  exact importRow_append hkeys hrow

theorem rejections_zipIdx (verdicts : List (Except Issues (KeyMap Json))) (n : Nat)
    : (verdicts.zipIdx n).filterMap rejection?
        =
      (verdicts.zipIdx.filterMap rejection?).map (Rejection.shift n) := by
  have hzip := List.map_snd_add_zipIdx_eq_zipIdx (l := verdicts) (n := n) (k := 0)
  rw [Nat.add_zero] at hzip
  rw [← hzip, List.filterMap_map, List.map_filterMap]
  apply List.filterMap_congr
  rintro ⟨verdict, m⟩ _
  cases verdict with
  | ok data => rfl
  | error issues => rfl

theorem submissions_append (hkeys : (i.fields.map Field.key).Nodup) (rows more : List Row)
    : (i.run (rows ++ more)).submissions
        =
      (i.run rows).submissions ++ ((i.next rows).run more).submissions := by
  rw [submissions_run, submissions_run, submissions_run, verdicts_append hkeys]
  apply List.filterMap_append

theorem rejected_append (hkeys : (i.fields.map Field.key).Nodup) (rows more : List Row)
    : (i.run (rows ++ more)).rejected
        =
      (i.run rows).rejected
        ++ ((i.next rows).run more).rejected.map (Rejection.shift rows.length) := by
  rw [rejected_run, rejected_run, rejected_run, verdicts_append hkeys]
  rw [List.zipIdx_append, List.filterMap_append, Nat.zero_add, List.length_map]
  rw [rejections_zipIdx _ rows.length]

theorem grow_append (hkeys : (i.fields.map Field.key).Nodup) (rows more : List Row)
    : (i.run (rows ++ more)).grow i.fields
        =
      ((i.next rows).run more).grow ((i.run rows).grow i.fields) := by
  rw [grow_run, grow_run, ← targetFields_next hkeys]
  exact (grow_run (i.next rows) more).symm

theorem of_next (hi : of fields mapping create = .ok i) (rows : List Row)
    : of (i.targetFields rows) mapping create = .ok (i.next rows) := by
  have heq := eq_of_of_eq_ok hi
  subst heq
  cases create with
  | true => exact of_grow_eq_ok hi _ true
  | false => exact hi

/-- Importing rows in two parts, the second into the fields grown by the first, accepts and rejects
what importing them at once does, and grows the fields alike. -/
theorem run_append (hi : of fields mapping create = .ok i) (hkeys : (fields.map Field.key).Nodup)
    (rows more : List Row)
    : ∃ j, of ((i.run rows).grow fields) mapping create = .ok j
        ∧ (i.run (rows ++ more)).submissions
            =
          (i.run rows).submissions ++ (j.run more).submissions
        ∧ (i.run (rows ++ more)).rejected
            =
          (i.run rows).rejected ++ (j.run more).rejected.map (Rejection.shift rows.length)
        ∧ (i.run (rows ++ more)).grow fields = (j.run more).grow ((i.run rows).grow fields) := by
  have hfields : i.fields = fields := by
    rw [eq_of_of_eq_ok hi]
  subst hfields
  refine ⟨i.next rows, ?_, submissions_append hkeys rows more, rejected_append hkeys rows more,
    grow_append hkeys rows more⟩
  rw [grow_run]
  exact of_next hi rows

theorem run_append_tags
    : let tags : Field := { key := "tags", label := "Tags", kind := .multiselect }
      let mapping : ColumnMapping := .ofList [("tags", "Tags")]
      let rows : List Row := [.ofList [("Tags", .string "Bio")]]
      let more : List Row := [.ofList [("Tags", .string "AI, bio")]]
      ∃ i j, of [tags] mapping true = .ok i ∧ ([tags].map Field.key).Nodup
        ∧ of ((i.run rows).grow [tags]) mapping true = .ok j
        ∧ (j.run more).submissions = [.object [("tags", Json.strings ["AI", "Bio"])]]
        ∧ (i.run (rows ++ more)).submissions
            =
          (i.run rows).submissions ++ (j.run more).submissions
        ∧ (i.run (rows ++ more)).rejected
            =
          (i.run rows).rejected ++ (j.run more).rejected.map (Rejection.shift 1)
        ∧ (i.run (rows ++ more)).grow [tags]
            =
          [tags.grow [.ofValue "Bio", .ofValue "AI"]]
        ∧ (i.run (rows ++ more)).grow [tags] = (j.run more).grow ((i.run rows).grow [tags]) := by
  intro tags mapping rows more
  have hi : of [tags] mapping true = .ok { fields := [tags], mapping, createChoices := true } := by
    decide +kernel
  have hkeys : ([tags].map Field.key).Nodup := by simp
  rcases run_append hi hkeys rows more with ⟨j, hj, hsubmissions, hrejected, hgrow⟩
  refine ⟨_, j, hi, hkeys, hj, ?_, hsubmissions, hrejected, by decide +kernel, hgrow⟩
  rw [eq_of_of_eq_ok hj]
  decide +kernel

end Importer

end Counterpart
