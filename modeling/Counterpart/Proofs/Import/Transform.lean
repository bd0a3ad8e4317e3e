import Counterpart.Proofs.Import.Growth
import Counterpart.Proofs.Import.Several
import Counterpart.Proofs.Validation.Fieldwise

/-!
This module contains what rows are transformed into. Choices enter a value only through the texts
of its cell, so that a cell all of whose texts name choices is read the same way whether or not
choices are created; and what is read without creating choices fits the field.
-/

namespace Counterpart

open Text

namespace Field

variable {f g : Field} {j v : Json} {t : String}

theorem choiceValue?_false (f : Field) (t : String)
    : f.choiceValue? false t = f.choices.normalize? t := by
  unfold choiceValue?
  cases f.choices.normalize? t with
  | none => rfl
  | some value => rfl

theorem choiceValue?_of_namesChoice (h : f.choices.namesChoice t = true) (create : Bool)
    : f.choiceValue? create t = f.choices.normalize? t := by
  rw [← Choices.isSome_normalize?, Option.isSome_iff_exists] at h
  rcases h with ⟨value, hvalue⟩
  unfold choiceValue?
  rw [hvalue]

theorem mapM_congr_left {f g : String → Option String} {ts : List String}
    (h : ∀ t ∈ ts, f t = g t)
    : ts.mapM f = ts.mapM g := by
  induction ts with
  | nil => rfl
  | cons t ts ih =>
    rw [List.mapM_cons, List.mapM_cons, h t List.mem_cons_self]
    rw [ih fun u hu => h u (List.mem_cons_of_mem t hu)]

theorem trim_mem_cellTexts {s : String} (hkind : f.kind ≠ .multiselect)
    (hs : j.scalarText? = some s) (hne : trim s ≠ "")
    : trim s ∈ f.cellTexts j := by
  have hclean : f.cellTexts j = cellTexts.clean [s] := by
    unfold cellTexts
    cases j with
    | array items => cases hs
    | null | object => cases hs
    | bool | number | string => simp only [hs, if_neg hkind]
  rw [hclean]
  simp [cellTexts.clean, hne]

theorem transform?_of_single (hf : f.bearsChoices = true) (hkind : f.kind ≠ .multiselect)
    (create : Bool) (j : Json)
    : f.transform? create j
        =
      (j.scalarText?.bind fun s =>
        f.choiceValue? (create && !(trim s).isEmpty) (trim s)).map .string := by
  unfold bearsChoices FieldKind.bearsChoices at hf
  unfold transform?
  cases hkind' : f.kind with
  | select | radio =>
    cases j.scalarText? with
    | none => rfl
    | some s =>
      dsimp only [Option.bind_eq_bind, Option.bind_some]
      cases f.choiceValue? (create && !(trim s).isEmpty) (trim s) with
      | none => rfl
      | some value => rfl
  | multiselect => exact absurd hkind' hkind
  | text | email | number | textarea | checkbox | date | file | url | phone | button | unknown =>
    rw [hkind'] at hf
    cases hf

theorem transform?_congr {a b : Bool} (hkind : g.kind = f.kind)
    (hempty : g.choices.normalize? "" = f.choices.normalize? "")
    (h : f.bearsChoices = true → ∀ t ∈ f.cellTexts j, g.choiceValue? b t = f.choiceValue? a t)
    : g.transform? b j = f.transform? a j := by
  unfold transform?
  rw [hkind]
  cases hf : f.kind with
  | select | radio =>
    cases hs : j.scalarText? with
    | none => rfl
    | some s =>
      simp only [Option.bind_eq_bind, Option.bind_some]
      -- A blank text does not become a choice in either mode; any other is a text of the cell.
      by_cases hne : trim s = ""
      . have hstrict : ∀ c : Bool, (c && !(trim s).isEmpty) = false := by
          simp [hne]
        rw [hstrict, hstrict, choiceValue?_false, choiceValue?_false, hne, hempty]
      . have hcreate : ∀ c : Bool, (c && !(trim s).isEmpty) = c := by
          simp [hne]
        have hmem := trim_mem_cellTexts (f := f) (by simp [hf]) hs hne
        rw [hcreate, hcreate, h (by simp [bearsChoices, hf, FieldKind.bearsChoices]) _ hmem]
  | multiselect =>
    cases htokens : Import.cellTokens? j with
    | none => rfl
    | some tokens =>
      simp only [Option.bind_eq_bind, Option.bind_some]
      have htexts : f.cellTexts j = tokens := by
        rw [cellTexts_eq_cellTokens hf, htokens]
        rfl
      rw [htexts] at h
      rw [mapM_congr_left (h (by simp [bearsChoices, hf, FieldKind.bearsChoices]))]
  | text | email | number | textarea | checkbox | date | file | url | phone | button | unknown =>
    rfl

theorem transform?_of_namesChoice
    (h : f.bearsChoices = true → ∀ t ∈ f.cellTexts j, f.choices.namesChoice t = true)
    (create : Bool)
    : f.transform? create j = f.transform? false j := by
  apply transform?_congr rfl rfl
  intro hf t ht
  rw [choiceValue?_of_namesChoice (h hf t ht), choiceValue?_false]

theorem transform?_learn (values : List Json)
    (h : f.bearsChoices = true → ∀ t ∈ f.cellTexts j, f.choices.namesChoice t = true)
    : (f.learn values).transform? false j = f.transform? false j := by
  apply transform?_congr (f.learn_kind values) normalize?_learn_empty
  intro hf t ht
  rw [choiceValue?_false, choiceValue?_false, normalize?_learn (h hf t ht)]

theorem exists_string_of_checkedText? {p : String → Bool} (h : checkedText? p j = some v)
    : ∃ s, v = .string s ∧ p s = true := by
  unfold checkedText? at h
  simp only [Option.bind_eq_bind, Option.bind_eq_some_iff] at h
  rcases h with ⟨s, _, hv⟩
  split at hv
  . next hp =>
    cases hv
    exact ⟨trim s, rfl, hp⟩
  . cases hv

theorem fitsRule_of_transform? (hj : ¬ j.isMissing = true) (h : f.transform? false j = some v)
    : f.fitsRule v = true := by
  have hread := h
  unfold transform? at h
  unfold fitsRule Rule.ofField?
  cases hf : f.kind with
  | button =>
    rw [hf] at h
    cases h
  | number =>
    rw [hf] at h
    rcases Option.map_eq_some_iff.1 h with ⟨x, _, rfl⟩
    rfl
  | checkbox =>
    rw [hf] at h
    rcases Option.map_eq_some_iff.1 h with ⟨b, _, rfl⟩
    rfl
  | select | radio =>
    rw [hf] at h
    simp only [Option.bind_eq_bind, Option.bind_eq_some_iff, Bool.false_and, choiceValue?_false,
      Option.pure_def, Option.some_inj] at h
    rcases h with ⟨s, _, value, hvalue, rfl⟩
    exact Choices.hasValue_of_normalize? hvalue
  | multiselect =>
    rcases exists_strings_of_several hf hread with ⟨values, rfl, hvalues⟩
    simp only [Option.any_some, Json.strings, Rule.fits, List.all_map, List.all_eq_true]
    exact hvalues
  | text | textarea | date | file =>
    rw [hf] at h
    rcases exists_string_of_checkedText? h with ⟨s, rfl, _⟩
    simp [Rule.fits, TextSyntax.accepts]
  | email | url | phone =>
    rw [hf] at h
    rcases exists_string_of_checkedText? h with ⟨s, rfl, hs⟩
    simp [Rule.fits, TextSyntax.accepts, hs]
  | unknown name =>
    rw [hf] at h
    cases h
    simp only [Option.any_some, Rule.fits, decide_eq_true_eq]
    -- Any value but `null` fits, and `null` is missing.
    rintro rfl
    exact hj rfl

def Chosen (f : Field) (v : Json) : Prop :=
  match f.kind with
  | .select | .radio => ∃ s, v = .string s ∧ f.choices.hasValue s = true
  | .multiselect => ∃ ss, v = Json.strings ss ∧ ∀ s ∈ ss, f.choices.hasValue s = true
  | _ => True

theorem exists_strings_of_isChoice {cs : Choices} {items : List Json}
    (h : ∀ item ∈ items, Rule.isChoice cs item = true)
    : ∃ ss : List String, items = ss.map .string ∧ ∀ s ∈ ss, cs.hasValue s = true := by
  induction items with
  | nil => exact ⟨[], rfl, by simp⟩
  | cons item items ih =>
    rcases ih fun i hi => h i (List.mem_cons_of_mem item hi) with ⟨ss, rfl, hss⟩
    have hitem := h item List.mem_cons_self
    cases item with
    | string s =>
      refine ⟨s :: ss, rfl, ?_⟩
      intro t ht
      rcases List.mem_cons.1 ht with rfl | ht
      . exact hitem
      . exact hss t ht
    | null | bool | number | array | object => cases hitem

theorem chosen_of_fitsRule (h : f.fitsRule v = true) : f.Chosen v := by
  unfold fitsRule Rule.ofField? at h
  unfold Chosen
  cases hf : f.kind with
  | select | radio =>
    rw [hf] at h
    cases v with
    | string s => exact ⟨s, rfl, h⟩
    | null | bool | number | array | object => cases h
  | multiselect =>
    rw [hf] at h
    cases v with
    | array items =>
      rcases exists_strings_of_isChoice (List.all_eq_true.1 h) with ⟨ss, rfl, hss⟩
      exact ⟨ss, rfl, hss⟩
    | null | bool | number | string | object => cases h
  | text | email | number | textarea | checkbox | date | file | url | phone | button | unknown =>
    trivial

end Field

namespace Row

variable {row : Row} {mapping : ColumnMapping} {create : Bool} {f : Field} {j : Json}

def datum? (row : Row) (mapping : ColumnMapping) (create : Bool) (f : Field) : Option Json :=
  (row.cell? mapping f).bind (f.transform? create)

theorem not_isMissing_of_cell? (h : row.cell? mapping f = some j) : ¬ j.isMissing = true := by
  unfold cell? at h
  simp only [Option.bind_eq_bind, Option.bind_eq_some_iff] at h
  rcases h with ⟨column, _, i, _, hi⟩
  split at hi
  . cases hi
  . next hmissing =>
    cases hi
    exact hmissing

theorem mem_cells_of_cell? {rows : List Row} (hrow : row ∈ rows)
    (h : row.cell? mapping f = some j)
    : j ∈ Import.cells rows mapping f := by
  unfold cell? at h
  simp only [Option.bind_eq_bind, Option.bind_eq_some_iff] at h
  rcases h with ⟨column, hcolumn, i, hi, hj⟩
  split at hj
  . cases hj
  . cases hj
    unfold Import.cells
    rw [hcolumn]
    exact List.mem_filterMap.2 ⟨row, hrow, hi⟩

theorem transform_eq (row : Row) (fields : List Field) (mapping : ColumnMapping) (create : Bool)
    : row.transform fields mapping create
        =
      .ofList (fields.filterMap fun f => (row.datum? mapping create f).map (f.key, ·)) := by
  unfold transform
  rw [List.filterMap_filter]
  congr 1
  apply List.filterMap_congr
  intro f _
  unfold datum?
  cases hcell : row.cell? mapping f with
  | none => simp
  | some j =>
    cases hv : f.transform? create j with
    | none => simp [hv]
    | some v =>
      -- Buttons alone carry no data, and nothing is read for them.
      have hdata : f.carriesData = true := by
        unfold Field.transform? at hv
        unfold Field.carriesData
        cases hf : f.kind with
        | button =>
          rw [hf] at hv
          cases hv
        | text | email | number | textarea | select | multiselect | radio | checkbox | date | file
        | url | phone | unknown => rfl
      simp [hdata, hv]

theorem get?_transform {fields : List Field} (h : (fields.map Field.key).Nodup) (row : Row)
    (mapping : ColumnMapping) (create : Bool) (k : String)
    : (row.transform fields mapping create).get? k
        =
      (fields.find? (·.key == k)).bind (row.datum? mapping create) := by
  rw [transform_eq, KeyMap.get?_ofList_filterMap Field.key _ h]

theorem suits_transform {fields : List Field} (h : (fields.map Field.key).Nodup) (row : Row)
    (mapping : ColumnMapping)
    : Suits fields (row.transform fields mapping false) := by
  intro k v hv
  rw [get?_transform h] at hv
  rcases Option.bind_eq_some_iff.1 hv with ⟨f, hfind, hdatum⟩
  rcases (KeyMap.find?_key_eq_some_iff Field.key h).1 hfind with ⟨hf, hkey⟩
  refine ⟨f, hf, hkey, ?_⟩
  rcases Option.bind_eq_some_iff.1 hdatum with ⟨j, hcell, hj⟩
  exact Field.fitsRule_of_transform? (not_isMissing_of_cell? hcell) hj

theorem transform_map (row : Row) (fields : List Field) (mapping : ColumnMapping) {a b : Bool}
    (g : Field → Field) (hkey : ∀ f, (g f).key = f.key)
    (h : ∀ f ∈ fields, ∀ j, row.cell? mapping f = some j → (g f).transform? b j = f.transform? a j)
    : row.transform (fields.map g) mapping b = row.transform fields mapping a := by
  rw [transform_eq, transform_eq, List.filterMap_map]
  congr 1
  apply List.filterMap_congr
  intro f hf
  have hcell : row.cell? mapping (g f) = row.cell? mapping f := by
    unfold cell?
    rw [hkey]
  simp only [Function.comp_apply, datum?, hcell, hkey]
  cases hj : row.cell? mapping f with
  | none => rfl
  | some j => simp [h f hf j hj]

end Row

end Counterpart
