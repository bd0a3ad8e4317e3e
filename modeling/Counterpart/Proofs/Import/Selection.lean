import Counterpart.Proofs.Format.Scalar
import Counterpart.Proofs.Import.Naming
import Counterpart.Proofs.Import.Transform

/-!
This module contains which of the discovered choices the rows of an upload select. Discovery looks
into the lists of every column, while a field that takes one choice is never filled from a list. So
every choice discovered for a field that takes several is selected, and one discovered for a field
that takes one is selected exactly if a cell other than a list has a text of its form.
-/

namespace Counterpart

open Text

namespace Json

variable {j : Json} {ss : List String} {s t : String}

theorem fold_of_isMissing (hmissing : j.isMissing = true) (h : j.scalarText? = some s)
    : fold s = "" := by
  have hblank : isBlankText s = true := by rw [isBlankText_scalarText? h, hmissing]
  unfold fold
  rw [trim_of_isBlankText hblank]
  rfl

def Selects (j : Json) (s : String) : Prop :=
  j = .string s ∨ ∃ items, j = .array items ∧ .string s ∈ items

theorem selects_string_iff : Selects (.string t) s ↔ t = s := by
  unfold Selects
  simp

theorem selects_strings_iff : (strings ss).Selects s ↔ s ∈ ss := by
  unfold Selects strings
  simp

end Json

namespace Field

variable {f : Field} {values : List Json} {j v : Json} {s t : String}

theorem fold_eq_of_choiceValue?_learn {create : Bool} (hs : s ∈ f.newChoices values)
    (h : (f.learn values).choiceValue? create t = some s)
    : fold t = fold s := by
  unfold choiceValue? at h
  split at h
  . next value hvalue =>
    cases h
    rcases Choices.exists_of_normalize? hvalue with ⟨c, hc, rfl, hmatches⟩
    rw [learn_eq, List.mem_append] at hc
    rcases hc with hold | hnew
    . exact absurd (Choices.hasValue_iff.2 ⟨c, hold, rfl⟩)
        (f.not_hasValue_of_mem_newChoices values hs)
    . rcases List.mem_map.1 hnew with ⟨u, _, rfl⟩
      exact (Choice.matchesLoosely_ofValue_iff.1 hmatches).symm
  . split at h
    . cases h
      rfl
    . cases h

theorem selects_of_several (hkind : f.kind = .multiselect) (hs : s ∈ f.newChoices values)
    (hj : s ∈ f.cellTexts j)
    : ∃ v, (f.learn values).transform? true j = some v ∧ v.Selects s := by
  have htexts : s ∈ (f.learn values).cellTexts j := by rwa [learn_cellTexts]
  have hreads : (f.learn values).ReadsAll true ((f.learn values).cellTexts j) :=
    readsAll_iff.2 ⟨List.ne_nil_of_mem htexts, .inl rfl⟩
  rw [transform?_several (f := f.learn values) hkind, if_pos hreads]
  refine ⟨_, rfl, ?_⟩
  rw [Json.selects_strings_iff, List.mem_eraseDups, List.mem_map]
  refine ⟨s, htexts, ?_⟩
  unfold meaning
  rw [normalize?_learn_of_mem_newChoices hs rfl, Option.getD_some]

theorem selects_single_iff (hf : f.bearsChoices = true) (hkind : f.kind ≠ .multiselect)
    (hs : s ∈ f.newChoices values)
    : (∃ v, (f.learn values).transform? true j = some v ∧ v.Selects s)
        ↔
      ∃ t, j.scalarText? = some t ∧ fold t = fold s := by
  rw [transform?_of_single (f := f.learn values) hf hkind]
  constructor
  . rintro ⟨v, hv, hselects⟩
    rcases Option.map_eq_some_iff.1 hv with ⟨value, hvalue, rfl⟩
    rcases Option.bind_eq_some_iff.1 hvalue with ⟨t, ht, hchoice⟩
    rw [Json.selects_string_iff.1 hselects] at hchoice
    refine ⟨t, ht, ?_⟩
    rw [← fold_trim, fold_eq_of_choiceValue?_learn hs hchoice]
  . rintro ⟨t, ht, heq⟩
    rw [← fold_trim] at heq
    refine ⟨.string s, ?_, Json.selects_string_iff.2 rfl⟩
    rw [ht, Option.bind_some]
    unfold choiceValue?
    rw [normalize?_learn_of_mem_newChoices hs heq]
    rfl

end Field

namespace Import

variable {rows : List Row} {fields : List Field} {mapping : ColumnMapping} {f : Field} {j : Json}

theorem exists_cell?_of_mem_cells (hj : j ∈ cells rows mapping f) (hmissing : ¬ j.isMissing = true)
    : ∃ row ∈ rows, row.cell? mapping f = some j := by
  unfold cells at hj
  split at hj
  . cases hj
  . next column hcolumn =>
    rcases List.mem_filterMap.1 hj with ⟨row, hrow, hget⟩
    refine ⟨row, hrow, ?_⟩
    unfold Row.cell?
    simp [hcolumn, hget, hmissing]

theorem get?_transform_grown (h : (fields.map Field.key).Nodup) (hf : f ∈ fields) (row : Row)
    : (row.transform (grow fields (discover fields rows mapping)) mapping true).get? f.key
        =
      (row.cell? mapping f).bind ((f.learn (cells rows mapping f)).transform? true) := by
  have hlearn : ((fields.map fun f => f.learn (cells rows mapping f)).map Field.key).Nodup := by
    simpa [Function.comp_def] using h
  have hfind : (fields.map fun f => f.learn (cells rows mapping f)).find? (·.key == f.key)
      = some (f.learn (cells rows mapping f)) := by
    rw [KeyMap.find?_key_eq_some_iff Field.key hlearn]
    exact ⟨List.mem_map_of_mem hf, rfl⟩
  rw [grow_discover h, Row.get?_transform hlearn, hfind, Option.bind_some]
  rfl

/-- Whether one of the rows, read over fields to which choices may still be added, selects a value
for a key. -/
def Selected (rows : List Row) (fields : List Field) (mapping : ColumnMapping) (key value : String)
    : Prop :=
  ∃ row ∈ rows, ∃ v, (row.transform fields mapping true).get? key = some v ∧ v.Selects value

theorem selected_iff_exists_cell (h : (fields.map Field.key).Nodup) (hf : f ∈ fields) {s : String}
    : Selected rows (grow fields (discover fields rows mapping)) mapping f.key s
        ↔
      ∃ j ∈ cells rows mapping f, ¬ j.isMissing = true
        ∧ ∃ v, (f.learn (cells rows mapping f)).transform? true j = some v ∧ v.Selects s := by
  unfold Selected
  simp only [get?_transform_grown h hf, Option.bind_eq_some_iff]
  constructor
  . rintro ⟨row, hrow, v, ⟨j, hcell, hv⟩, hselects⟩
    exact ⟨j, Row.mem_cells_of_cell? hrow hcell, Row.not_isMissing_of_cell? hcell, v, hv, hselects⟩
  . rintro ⟨j, hj, hmissing, v, hv, hselects⟩
    rcases exists_cell?_of_mem_cells hj hmissing with ⟨row, hrow, hcell⟩
    exact ⟨row, hrow, v, ⟨j, hcell, hv⟩, hselects⟩

theorem selected_iff (h : (fields.map Field.key).Nodup) (hf : f ∈ fields) {s : String}
    (hs : s ∈ f.newChoices (cells rows mapping f))
    : Selected rows (grow fields (discover fields rows mapping)) mapping f.key s
        ↔
      f.kind = .multiselect
        ∨ ∃ j ∈ cells rows mapping f, ∃ t, j.scalarText? = some t ∧ fold t = fold s := by
  have hbears := Field.bearsChoices_of_mem_newChoices hs
  rw [selected_iff_exists_cell h hf]
  by_cases hkind : f.kind = .multiselect
  . simp only [hkind, true_or, iff_true]
    rcases List.mem_flatMap.1 (Field.mem_newChoices hs).1 with ⟨j, hj, htext⟩
    refine ⟨j, hj, ?_, Field.selects_of_several hkind hs htext⟩
    intro hmissing
    rw [Field.cellTexts_of_isMissing f hmissing] at htext
    cases htext
  . simp only [hkind, false_or, Field.selects_single_iff hbears hkind hs]
    constructor
    . rintro ⟨j, hj, _, hnamed⟩
      exact ⟨j, hj, hnamed⟩
    . rintro ⟨j, hj, t, ht, heq⟩
      refine ⟨j, hj, ?_, t, ht, heq⟩
      intro hmissing
      apply Field.fold_ne_of_mem_newChoices hs
      rw [← heq, Json.fold_of_isMissing hmissing ht]

theorem exists_of_reported (h : (fields.map Field.key).Nodup) {key : String} {extra : List Choice}
    (hextra : (discover fields rows mapping).get? key = some extra) {c : Choice} (hc : c ∈ extra)
    : ∃ f ∈ fields, f.key = key ∧ ∃ s ∈ f.newChoices (cells rows mapping f), .ofValue s = c := by
  unfold discover at hextra
  simp only [funext (discovered?_eq rows mapping)] at hextra
  rw [KeyMap.get?_ofList_filterMap_eq_some_iff Field.key _ h] at hextra
  rcases hextra with ⟨f, hf, hkey, hnew⟩
  refine ⟨f, hf, hkey, ?_⟩
  split at hnew
  . cases hnew
  . cases hnew
    exact List.mem_map.1 hc

/-- A choice that discovery reports for a field is selected by one of the rows exactly if the field
takes several choices, or a cell that is no list has a text of its form. So there is no choice that
nobody selects unless lists stand in the column of a field that takes one choice. -/
theorem selected_of_reported (h : (fields.map Field.key).Nodup) {key : String}
    {extra : List Choice} (hextra : (discover fields rows mapping).get? key = some extra)
    {c : Choice} (hc : c ∈ extra)
    : ∃ f ∈ fields, f.key = key ∧ f.bearsChoices = true
        ∧ (Selected rows (grow fields (discover fields rows mapping)) mapping key c.value
            ↔
          f.kind = .multiselect
            ∨ ∃ j ∈ cells rows mapping f, ∃ t, j.scalarText? = some t ∧ fold t = fold c.value)
        ∧ ((f.kind ≠ .multiselect → ∀ j ∈ cells rows mapping f, ∀ items, j ≠ .array items) →
          Selected rows (grow fields (discover fields rows mapping)) mapping key c.value) := by
  rcases exists_of_reported h hextra hc with ⟨f, hf, rfl, s, hs, rfl⟩
  have hiff := selected_iff h hf hs
  refine ⟨f, hf, rfl, Field.bearsChoices_of_mem_newChoices hs, hiff, ?_⟩
  intro hlists
  apply hiff.2
  by_cases hkind : f.kind = .multiselect
  . exact .inl hkind
  . rcases List.mem_flatMap.1 (Field.mem_newChoices hs).1 with ⟨j, hj, htext⟩
    have hscalar := Field.exists_scalarText_of_mem_cellTexts hkind (hlists hkind j hj) htext
    rcases hscalar with ⟨t, ht, rfl⟩
    exact .inr ⟨j, hj, t, ht, (fold_trim t).symm⟩

theorem selected_of_reported_stage
    : let stage : Field := { key := "stage", label := "Stage", kind := .select }
      let mapping : ColumnMapping := .ofList [("stage", "Stage")]
      let rows : List Row :=
        [.ofList [("Stage", .string "Growth")], .ofList [("Stage", .array [.string "GROWTH"])]]
      let extra : List Choice := [.ofValue "Growth"]
      ([stage].map Field.key).Nodup
        ∧ (discover [stage] rows mapping).get? "stage" = some extra ∧ .ofValue "Growth" ∈ extra
        ∧ Selected rows (grow [stage] (discover [stage] rows mapping)) mapping "stage"
          "Growth" := by
  intro stage mapping rows extra
  have hkeys : ([stage].map Field.key).Nodup := by simp
  have hextra : (discover [stage] rows mapping).get? "stage" = some extra := by decide +kernel
  have hc : Choice.ofValue "Growth" ∈ extra := by simp [extra]
  refine ⟨hkeys, hextra, hc, ?_⟩
  rcases selected_of_reported hkeys hextra hc with ⟨f, hf, _, _, hiff, _⟩
  rw [List.mem_singleton.1 hf] at hiff
  apply hiff.2
  exact .inr ⟨.string "Growth", by decide +kernel, "Growth", rfl, rfl⟩

/-- A choice that is reported for a field that takes one, because it stands in a list, from which
the field is not filled. -/
theorem exists_reported_not_selected
    : let stage : Field := { key := "stage", label := "Stage", kind := .select }
      let mapping : ColumnMapping := .ofList [("stage", "Stage")]
      let rows : List Row := [.ofList [("Stage", .array [.string "Growth"])]]
      ([stage].map Field.key).Nodup
        ∧ (discover [stage] rows mapping).get? "stage" = some [.ofValue "Growth"]
        ∧ ¬ Selected rows (grow [stage] (discover [stage] rows mapping)) mapping "stage"
          "Growth" := by
  intro stage mapping rows
  refine ⟨by simp, by decide +kernel, ?_⟩
  rintro ⟨row, hrow, v, hv, _⟩
  have hnone : (Row.transform (.ofList [("Stage", .array [.string "Growth"])])
      (grow [stage] (discover [stage] rows mapping)) mapping true).get? "stage" = none := by
    decide +kernel
  rw [List.mem_singleton.1 hrow, hnone] at hv
  cases hv

end Import

end Counterpart
