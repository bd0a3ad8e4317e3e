import Counterpart.Import.Run
import Counterpart.Proofs.Import.Transform

/-!
This module contains what comes of an import run. The data of every row suits the fields that the
run reads it against, so a row is refused exactly for what is blank or out of bounds, and otherwise
its data is the submission. With choices being created no value is ever decided by the text of the
cell alone: the run is that of an import into the grown fields that creates no choices.
-/

namespace Counterpart

namespace Importer

variable {fields : List Field} {mapping : ColumnMapping} {create : Bool} {i : Importer}
variable {rows : List Row} {row : Row}

theorem eq_of_of_eq_ok (h : of fields mapping create = .ok i)
    : i = { fields, mapping, createChoices := create } := by
  unfold of at h
  split at h
  . cases h
  . cases h
    rfl

theorem targetFields_eq_map (hkeys : (i.fields.map Field.key).Nodup) (rows : List Row)
    : i.targetFields rows
        =
      if i.createChoices then
        i.fields.map fun f => f.learn (Import.cells rows i.mapping f)
      else
        i.fields := by
  unfold targetFields discovered
  rw [Import.grow_discover hkeys]

theorem isEmpty_discovered_of_newChoices_eq_none (h : (i.run rows).newChoices = none)
    (hcreate : i.createChoices = true)
    : (i.discovered rows).isEmpty = true := by
  unfold run at h
  dsimp only at h
  split at h
  . cases h
  . next hnot =>
    by_contra hne
    exact hnot ⟨hcreate, hne⟩

theorem targetFields_of_newChoices_eq_none (h : (i.run rows).newChoices = none)
    : i.targetFields rows = i.fields := by
  unfold targetFields
  split
  . next hcreate =>
    have hempty := isEmpty_discovered_of_newChoices_eq_none h hcreate
    rw [KeyMap.isEmpty_iff] at hempty
    unfold Import.grow
    simp only [hempty]
    apply List.map_id'
  . rfl

theorem discovered_of_newChoices_eq_some {choices : NewChoices}
    (h : (i.run rows).newChoices = some choices)
    : i.createChoices = true ∧ i.discovered rows = choices := by
  unfold run at h
  dsimp only at h
  split at h
  . next hcreate =>
    cases h
    exact ⟨hcreate.1, rfl⟩
  . cases h

theorem targetFields_of_newChoices_eq_some {choices : NewChoices}
    (h : (i.run rows).newChoices = some choices)
    : i.targetFields rows = Import.grow i.fields choices := by
  rcases discovered_of_newChoices_eq_some h with ⟨hcreate, hdiscovered⟩
  unfold targetFields
  rw [if_pos hcreate, hdiscovered]

theorem map_key_targetFields (i : Importer) (rows : List Row)
    : (i.targetFields rows).map Field.key = i.fields.map Field.key := by
  unfold targetFields
  split
  . exact Import.map_key_grow i.fields _
  . rfl

theorem nodup_keys_targetFields (hkeys : (i.fields.map Field.key).Nodup) (rows : List Row)
    : ((i.targetFields rows).map Field.key).Nodup := by
  rwa [map_key_targetFields]

theorem namesChoice_targetFields (hkeys : (i.fields.map Field.key).Nodup)
    (hcreate : i.createChoices = true) (hrow : row ∈ rows) {f : Field}
    (hf : f ∈ i.targetFields rows) {j : Json} (hcell : row.cell? i.mapping f = some j)
    (hbears : f.bearsChoices = true)
    : ∀ t ∈ f.cellTexts j, f.choices.namesChoice t = true := by
  rw [targetFields_eq_map hkeys, hcreate, if_pos rfl] at hf
  rcases List.mem_map.1 hf with ⟨g, _, rfl⟩
  intro t ht
  exact Field.namesChoice_learn hbears (Row.mem_cells_of_cell? hrow hcell) ht

theorem transform?_targetFields (hkeys : (i.fields.map Field.key).Nodup) (hrow : row ∈ rows)
    {f : Field} (hf : f ∈ i.targetFields rows) {j : Json} (hcell : row.cell? i.mapping f = some j)
    : f.transform? i.createChoices j = f.transform? false j := by
  cases hcreate : i.createChoices with
  | false => rfl
  | true =>
    apply Field.transform?_of_namesChoice
    exact namesChoice_targetFields hkeys hcreate hrow hf hcell

def data (i : Importer) (rows : List Row) (row : Row) : KeyMap Json :=
  row.transform (i.targetFields rows) i.mapping i.createChoices

theorem data_eq_strict (hkeys : (i.fields.map Field.key).Nodup) (hrow : row ∈ rows)
    : i.data rows row = row.transform (i.targetFields rows) i.mapping false := by
  unfold data
  have hmap := row.transform_map (i.targetFields rows) i.mapping id (fun _ => rfl)
    fun f hf j hcell => transform?_targetFields hkeys hrow hf hcell
  rwa [List.map_id] at hmap

theorem suits_data (hkeys : (i.fields.map Field.key).Nodup) (hrow : row ∈ rows)
    : Suits (i.targetFields rows) (i.data rows row) := by
  rw [data_eq_strict hkeys hrow]
  apply Row.suits_transform
  exact nodup_keys_targetFields hkeys rows

theorem importRow_eq (hkeys : (i.fields.map Field.key).Nodup) (hrow : row ∈ rows)
    : i.importRow (i.targetFields rows) row
        =
      if isFaulty (i.targetFields rows) (i.data rows row) then
        .error (issuesOf (i.targetFields rows) (i.data rows row))
      else
        .ok (i.data rows row) := by
  apply (suits_data hkeys hrow).validate_eq
  exact nodup_keys_targetFields hkeys rows

def submission? : Except Issues (KeyMap Json) → Option Json
  | .ok data => some (.ofMap data)
  | .error _ => none

def rejection? : Except Issues (KeyMap Json) × Nat → Option Rejection
  | (.ok _, _) => none
  | (.error issues, row) => some { row, issues }

theorem submissions_eq_filterMap (i : Importer) (rows : List Row)
    : (i.run rows).submissions = (i.verdicts rows).filterMap fun e => submission? e.1 := by
  rfl

theorem submissions_run (i : Importer) (rows : List Row)
    : (i.run rows).submissions
        =
      (rows.map (i.importRow (i.targetFields rows))).filterMap submission? := by
  have hmap : (i.verdicts rows).map Prod.fst = rows.map (i.importRow (i.targetFields rows)) := by
    unfold verdicts
    apply List.zipIdx_map_fst
  rw [← hmap, List.filterMap_map]
  rfl

theorem rejected_eq_filterMap (i : Importer) (rows : List Row)
    : (i.run rows).rejected = (i.verdicts rows).filterMap rejection? := by
  unfold run
  dsimp only
  apply List.filterMap_congr
  rintro ⟨verdict, n⟩ _
  cases verdict with
  | ok data => rfl
  | error issues => rfl

theorem rejected_run (i : Importer) (rows : List Row)
    : (i.run rows).rejected
        =
      ((rows.map (i.importRow (i.targetFields rows))).zipIdx).filterMap rejection? := by
  rw [rejected_eq_filterMap]
  rfl

theorem mem_rejected_run {n : Nat} {issues : Issues}
    : { row := n, issues } ∈ (i.run rows).rejected
        ↔
      ∃ row, rows[n]? = some row ∧ i.importRow (i.targetFields rows) row = .error issues := by
  rw [rejected_run, List.mem_filterMap]
  constructor
  . rintro ⟨⟨verdict, m⟩, hmem, hr⟩
    rw [List.mem_zipIdx_iff_getElem?, List.getElem?_map, Option.map_eq_some_iff] at hmem
    rcases hmem with ⟨row, hrow, hverdict⟩
    cases verdict with
    | ok data => cases hr
    | error issues =>
      cases hr
      exact ⟨row, hrow, hverdict⟩
  . rintro ⟨row, hrow, h⟩
    refine ⟨(.error issues, n), ?_, rfl⟩
    rw [List.mem_zipIdx_iff_getElem?, List.getElem?_map, hrow]
    simp [h]

section Verdicts

variable (verdicts : List (Except Issues (KeyMap Json))) (start : Nat)

theorem sublist_rows_rejections
    : (((verdicts.zipIdx start).filterMap rejection?).map Rejection.row).Sublist
        (List.range' start verdicts.length) := by
  -- Every verdict uses up one place, whether or not it is a rejection.
  induction verdicts generalizing start with
  | nil => simp
  | cons verdict verdicts ih =>
    rw [List.zipIdx_cons, List.length_cons, List.range'_succ]
    cases verdict with
    | ok data => exact (ih (start + 1)).cons start
    | error issues => exact (ih (start + 1)).cons_cons start

theorem length_submissions_add_length_rejections
    : (verdicts.filterMap submission?).length
        + ((verdicts.zipIdx start).filterMap rejection?).length
        =
      verdicts.length := by
  induction verdicts generalizing start with
  | nil => rfl
  | cons verdict verdicts ih =>
    have := ih (start + 1)
    rw [List.zipIdx_cons]
    cases verdict with
    | ok data =>
      simp only [List.filterMap_cons, submission?, rejection?, List.length_cons]
      omega
    | error issues =>
      simp only [List.filterMap_cons, submission?, rejection?, List.length_cons]
      omega

end Verdicts

theorem submissions_eq_map (hkeys : (i.fields.map Field.key).Nodup) (rows : List Row)
    : (i.run rows).submissions
        =
      (rows.filter fun row => !isFaulty (i.targetFields rows) (i.data rows row)).map
        fun row => .ofMap (i.data rows row) := by
  rw [submissions_run, List.filterMap_map, ← List.filterMap_eq_map, List.filterMap_filter]
  apply List.filterMap_congr
  intro row hrow
  rw [Function.comp_apply, importRow_eq hkeys hrow]
  cases isFaulty (i.targetFields rows) (i.data rows row) with
  | true => rfl
  | false => rfl

theorem mem_rejected_iff (hkeys : (i.fields.map Field.key).Nodup) {n : Nat} {issues : Issues}
    : { row := n, issues } ∈ (i.run rows).rejected
        ↔
      ∃ row, rows[n]? = some row ∧ isFaulty (i.targetFields rows) (i.data rows row) = true
        ∧ issues = issuesOf (i.targetFields rows) (i.data rows row) := by
  rw [mem_rejected_run]
  apply exists_congr
  intro row
  apply and_congr_right
  intro hrow
  rw [importRow_eq hkeys (List.mem_of_getElem? hrow)]
  cases isFaulty (i.targetFields rows) (i.data rows row) with
  | true => simp [eq_comm]
  | false => simp

theorem pairwise_rows_rejected (i : Importer) (rows : List Row)
    : ((i.run rows).rejected.map Rejection.row).Pairwise (· < ·) := by
  rw [rejected_run]
  apply List.Pairwise.sublist (sublist_rows_rejections _ 0)
  exact List.pairwise_lt_range'

theorem length_submissions_add_length_rejected (i : Importer) (rows : List Row)
    : (i.run rows).submissions.length + (i.run rows).rejected.length = rows.length := by
  rw [submissions_run, rejected_run, length_submissions_add_length_rejections, List.length_map]

/-- What comes of a run over fields with different keys. The data of a row, unchanged, is its
submission unless a required value is missing or a number lies outside its bounds; then those are
the issues with which the row is rejected. Both lists keep the order of the rows. -/
theorem run_exact (hi : of fields mapping create = .ok i) (hkeys : (fields.map Field.key).Nodup)
    (rows : List Row)
    : let target :=
        if create then Import.grow fields (Import.discover fields rows mapping) else fields
      let data (row : Row) := row.transform target mapping create
      let faulty (row : Row) := target.any fun f =>
        f.lacksValue (data row) || (f.strayNumber? (data row)).isSome
      (i.run rows).submissions = (rows.filter (!faulty ·)).map (fun row => .ofMap (data row))
        ∧ (∀ n issues, { row := n, issues } ∈ (i.run rows).rejected
            ↔
          ∃ row, rows[n]? = some row ∧ faulty row = true
            ∧ ∀ key issue, issues.get? key = some issue
                ↔
              ∃ f ∈ target, f.key = key
                ∧ (f.lacksValue (data row) = true ∧ issue = .required
                  ∨ ∃ x, f.strayNumber? (data row) = some x ∧ issue = f.rangeIssue x))
        ∧ ((i.run rows).rejected.map Rejection.row).Pairwise (· < ·)
        ∧ (i.run rows).submissions.length + (i.run rows).rejected.length = rows.length := by
  intro target data faulty
  have heq := eq_of_of_eq_ok hi
  subst heq
  refine ⟨submissions_eq_map hkeys rows, ?_, pairwise_rows_rejected _ rows,
    length_submissions_add_length_rejected _ rows⟩
  intro n issues
  rw [mem_rejected_iff hkeys]
  apply exists_congr
  intro row
  apply and_congr_right
  intro hrow
  apply and_congr_right
  intro _
  have hsuits := suits_data (i := { fields, mapping, createChoices := create }) hkeys
    (List.mem_of_getElem? hrow)
  exact hsuits.eq_issuesOf_iff (nodup_keys_targetFields hkeys rows)

theorem run_exact_amounts
    : let amount : Field :=
        { key := "amount", label := "Amount", kind := .number, required := true,
          bounds := some { max := some (.ofInt Numeric.double 10) } }
      let mapping : ColumnMapping := .ofList [("amount", "Amount")]
      let rows : List Row :=
        [.ofList [("Amount", .string " 7 ")], .ofList [("Amount", .string "")],
          .ofList [("Amount", .ofInt 70)]]
      ∃ i, of [amount] mapping false = .ok i ∧ ([amount].map Field.key).Nodup
        ∧ (i.run rows).submissions.length + (i.run rows).rejected.length = 3
        ∧ (i.run rows).submissions = [.object [("amount", .ofInt 7)]]
        ∧ ∀ issues, { row := 1, issues } ∈ (i.run rows).rejected →
            issues.get? "amount" = some .required := by
  intro amount mapping rows
  have hi : of [amount] mapping false
      = .ok { fields := [amount], mapping, createChoices := false } := by
    decide +kernel
  have hkeys : ([amount].map Field.key).Nodup := by simp
  rcases run_exact hi hkeys rows with ⟨hsubmissions, hrejected, _, hlength⟩
  refine ⟨_, hi, hkeys, hlength, hsubmissions.trans (by decide +kernel), ?_⟩
  intro issues hmem
  rcases (hrejected 1 issues).1 hmem with ⟨row, hrow, _, hissues⟩
  cases hrow
  apply (hissues "amount" .required).2
  exact ⟨amount, by decide +kernel, rfl, .inl ⟨by decide +kernel, rfl⟩⟩

theorem fault?_grow (fields : List Field) (extra : NewChoices) (key : String)
    : fault? (Import.grow fields extra) key = fault? fields key := by
  unfold fault? Import.grow
  rw [List.find?_map]
  have hkey : (fun f : Field => f.key == key) ∘
      (fun f : Field => f.grow ((KeyMap.get? extra f.key).getD [])) = fun f => f.key == key := by
    rfl
  rw [hkey]
  cases fields.find? (·.key == key) with
  | none => rfl
  | some f => rfl

theorem of_grow_eq_ok (hi : of fields mapping create = .ok i) (extra : NewChoices) (b : Bool)
    : of (Import.grow fields extra) mapping b
        =
      .ok { fields := Import.grow fields extra, mapping, createChoices := b } := by
  unfold of at hi ⊢
  simp only [fault?_grow]
  split at hi
  . cases hi
  . next h => rw [h]

def strict (i : Importer) (rows : List Row) : Importer :=
  { fields := i.targetFields rows, mapping := i.mapping, createChoices := false }

theorem verdicts_strict (hkeys : (i.fields.map Field.key).Nodup) (rows : List Row)
    : (i.strict rows).verdicts rows = i.verdicts rows := by
  unfold verdicts
  congr 1
  apply List.map_congr_left
  intro row hrow
  unfold importRow
  -- Both sides compile the same fields, so only the data of the row is left to compare.
  have hdata := data_eq_strict hkeys hrow
  unfold data at hdata
  rw [hdata]
  rfl

/-- Creating choices is growing the fields and then importing without creating any: the text of a
cell never stands for itself, and every choice imported is one that the grown fields offer. -/
theorem run_creating_eq_strict (hi : of fields mapping true = .ok i)
    (hkeys : (fields.map Field.key).Nodup) (rows : List Row)
    : let grown := Import.grow fields (Import.discover fields rows mapping)
      ∃ strict, of grown mapping false = .ok strict
        ∧ (i.run rows).submissions = (strict.run rows).submissions
        ∧ (i.run rows).rejected = (strict.run rows).rejected
        ∧ (∀ row ∈ rows, ∀ f ∈ grown, ∀ j, row.cell? mapping f = some j →
            f.transform? true j = f.transform? false j)
        ∧ (∀ j ∈ (i.run rows).submissions, ∀ f ∈ grown, ∀ v, j.member? f.key = some v →
            f.Chosen v) := by
  intro grown
  have hstrict := of_grow_eq_ok hi (Import.discover fields rows mapping) false
  have heq := eq_of_of_eq_ok hi
  subst heq
  have hverdicts := verdicts_strict (i := { fields, mapping, createChoices := true }) hkeys rows
  refine ⟨strict { fields, mapping, createChoices := true } rows, hstrict, ?_, ?_, ?_, ?_⟩
  . rw [submissions_eq_filterMap, submissions_eq_filterMap, hverdicts]
  . rw [rejected_eq_filterMap, rejected_eq_filterMap, hverdicts]
  . intro row hrow f hf j hcell
    exact transform?_targetFields (i := { fields, mapping, createChoices := true }) hkeys hrow hf
      hcell
  . intro j hj f hf v hv
    rw [submissions_eq_map hkeys, List.mem_map] at hj
    rcases hj with ⟨row, hrow, rfl⟩
    have hsuits := suits_data (i := { fields, mapping, createChoices := true }) hkeys
      (List.mem_of_mem_filter hrow)
    exact Field.chosen_of_fitsRule (hsuits.fitsRule (nodup_keys_targetFields hkeys rows) hf hv)

theorem run_creating_eq_strict_tags
    : let tags : Field :=
        { key := "tags", label := "Tags", kind := .multiselect, choices := [.ofValue "AI"] }
      let mapping : ColumnMapping := .ofList [("tags", "Tags")]
      let rows : List Row :=
        [.ofList [("Tags", .string "ai, Bio")], .ofList [("Tags", .string "BIO")]]
      ∃ i strict, of [tags] mapping true = .ok i ∧ ([tags].map Field.key).Nodup
        ∧ of [tags.grow [.ofValue "Bio"]] mapping false = .ok strict
        ∧ (i.run rows).submissions = (strict.run rows).submissions
        ∧ (i.run rows).rejected = (strict.run rows).rejected
        ∧ (strict.run rows).submissions
            =
          [.object [("tags", Json.strings ["AI", "Bio"])],
            .object [("tags", Json.strings ["Bio"])]] := by
  intro tags mapping rows
  have hi : of [tags] mapping true = .ok { fields := [tags], mapping, createChoices := true } := by
    decide +kernel
  have hkeys : ([tags].map Field.key).Nodup := by simp
  have hgrown : Import.grow [tags] (Import.discover [tags] rows mapping)
      = [tags.grow [.ofValue "Bio"]] := by
    decide +kernel
  rcases run_creating_eq_strict hi hkeys rows with ⟨strict, hstrict, hsubmissions, hrejected, _⟩
  rw [hgrown] at hstrict
  refine ⟨_, strict, hi, hkeys, hstrict, hsubmissions, hrejected, ?_⟩
  rw [← hsubmissions]
  decide +kernel

end Importer

end Counterpart
