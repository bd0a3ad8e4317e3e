import Counterpart.Proofs.Field.Extension
import Counterpart.Proofs.Import.Discovery

/-!
This module contains the growth of fields by the choices discovered in a column. Growth appends the
discovered choices and changes nothing else, afterwards every text of the column names a choice,
and growing by two columns one after the other is growing by both at once.
-/

namespace Counterpart

open Text

namespace Field

variable (f : Field) (values : List Json)

/-- The field with the choices that a column's values bring. -/
def learn : Field := f.grow ((f.newChoices values).map Choice.ofValue)

@[simp]
theorem learn_key : (f.learn values).key = f.key := by
  rfl

@[simp]
theorem learn_kind : (f.learn values).kind = f.kind := by
  rfl

theorem learn_cellTexts : (f.learn values).cellTexts = f.cellTexts := by
  rfl

theorem nodup_newChoices : (f.newChoices values).Nodup := by
  apply (f.pairwise_newChoices values).imp
  intro s t hne heq
  exact hne (congrArg fold heq)

theorem not_hasValue_of_mem_newChoices {t : String} (ht : t ∈ f.newChoices values)
    : ¬ f.choices.hasValue t = true := by
  intro hvalue
  apply (mem_newChoices ht).2
  apply Choices.namesChoice_of_hasValue
  rw [(trimmed_of_mem_newChoices ht).1]
  exact hvalue

theorem learn_eq
    : f.learn values
        =
      { f with choices := f.choices ++ (f.newChoices values).map Choice.ofValue } := by
  unfold learn
  rw [grow_eq, Choices.extend_of_absent]
  . intro c hc
    rcases List.mem_map.1 hc with ⟨t, ht, rfl⟩
    exact f.not_hasValue_of_mem_newChoices values ht
  . unfold Choices.values
    simpa [Function.comp_def, Choice.ofValue] using f.nodup_newChoices values

variable {f values}

theorem namesChoice_learn_iff {t : String}
    : (f.learn values).choices.namesChoice t = true
        ↔
      f.choices.namesChoice t = true ∨ ∃ s ∈ f.newChoices values, fold s = fold t := by
  rw [learn_eq, Choices.namesChoice_append, Bool.or_eq_true]
  apply or_congr Iff.rfl
  rw [Choices.namesChoice_iff]
  simp only [List.mem_map, exists_exists_and_eq_and, Choice.matchesLoosely_ofValue_iff]

theorem namesChoice_learn {j : Json} {t : String} (hf : f.bearsChoices = true) (hj : j ∈ values)
    (ht : t ∈ f.cellTexts j)
    : (f.learn values).choices.namesChoice t = true := by
  rw [namesChoice_learn_iff]
  apply namesChoice_or_mem_newChoices hf
  exact List.mem_flatMap.2 ⟨j, hj, ht⟩

theorem normalize?_learn {t : String} (h : f.choices.namesChoice t = true)
    : (f.learn values).choices.normalize? t = f.choices.normalize? t := by
  rw [learn_eq]
  apply Choices.normalize?_append h
  intro d hd
  rcases List.mem_map.1 hd with ⟨s, hs, rfl⟩
  exact (mem_newChoices hs).2

theorem normalize?_learn_empty
    : (f.learn values).choices.normalize? "" = f.choices.normalize? "" := by
  rw [learn_eq]
  apply Choices.normalize?_append_of_not_namesChoice
  rw [Choices.namesChoice_iff]
  rintro ⟨c, hc, hm⟩
  rcases List.mem_map.1 hc with ⟨s, hs, rfl⟩
  apply fold_ne_of_mem_newChoices hs
  rw [Choice.matchesLoosely_ofValue_iff.1 hm]
  rfl

/-- What the second column brings once the first one is known is what is left of it when both are
looked through at once. -/
theorem newChoices_append (f : Field) (xs ys : List Json)
    : f.newChoices (xs ++ ys) = f.newChoices xs ++ (f.learn xs).newChoices ys := by
  by_cases hf : f.bearsChoices = true
  . rw [newChoices_eq hf, newChoices_eq hf, newChoices_eq (f := f.learn xs) hf]
    rw [List.flatMap_append, List.filter_append, firstSpellings_append, learn_cellTexts]
    congr 1
    -- A text of the later values is skipped if `f` after growth names it, because that is the case
    -- exactly if `f` names it already or an earlier text has the same form.
    rw [firstSpellings_eq_filter .empty (f.learn xs).choices.namesChoice]
    . rw [List.filter_filter]
      congr 1
      apply List.filter_congr
      intro t _
      cases ht : f.choices.namesChoice t with
      | false => simp
      | true =>
        have : (f.learn xs).choices.namesChoice t = true := namesChoice_learn_iff.2 (.inl ht)
        simp [this]
    . intro t ht
      have hnot : ¬ f.choices.namesChoice t = true := by
        simpa using (List.mem_filter.1 ht).2
      rw [FoldedSet.contains_foldl_insert, namesChoice_learn_iff, newChoices_eq hf]
      simp only [FoldedSet.contains_empty, Bool.false_eq_true, hnot, false_or, or_false]
      constructor
      . rintro ⟨s, hs, heq⟩
        rcases exists_mem_firstSpellings .empty hs with hseen | ⟨u, hu, hfold⟩
        . simp at hseen
        . exact ⟨u, hu, hfold.trans heq⟩
      . rintro ⟨s, hs, heq⟩
        exact ⟨s, (mem_of_mem_firstSpellings hs).1, heq⟩
  . rw [newChoices_of_not_bearsChoices hf, newChoices_of_not_bearsChoices hf]
    rw [newChoices_of_not_bearsChoices (f := f.learn xs) hf]
    rfl

theorem learn_append (f : Field) (xs ys : List Json)
    : f.learn (xs ++ ys) = (f.learn xs).learn ys := by
  rw [learn_eq f (xs ++ ys), learn_eq (f.learn xs) ys, newChoices_append]
  rw [List.map_append, ← List.append_assoc]
  rw [learn_eq f xs]

theorem newChoices_learn (f : Field) (values : List Json)
    : (f.learn values).newChoices values = [] := by
  by_cases hf : f.bearsChoices = true
  . rw [List.eq_nil_iff_forall_not_mem]
    intro t ht
    have ⟨htexts, hnot⟩ := mem_newChoices ht
    rcases List.mem_flatMap.1 htexts with ⟨j, hj, htj⟩
    exact hnot (namesChoice_learn hf hj htj)
  . exact newChoices_of_not_bearsChoices (f := f.learn values) hf values

@[simp]
theorem learn_learn (f : Field) (values : List Json)
    : (f.learn values).learn values = f.learn values := by
  rw [learn_eq (f.learn values), newChoices_learn, List.map_nil, List.append_nil]

end Field

namespace Import

def cells (rows : List Row) (mapping : ColumnMapping) (f : Field) : List Json :=
  match mapping.columnFor? f.key with
  | none => []
  | some column => rows.filterMap (KeyMap.get? · column)

theorem cells_append (rows more : List Row) (mapping : ColumnMapping) (f : Field)
    : cells (rows ++ more) mapping f = cells rows mapping f ++ cells more mapping f := by
  unfold cells
  split
  . rfl
  . rw [List.filterMap_append]

theorem discovered?_eq (rows : List Row) (mapping : ColumnMapping) (f : Field)
    : discovered? rows mapping f
        =
      (match f.newChoices (cells rows mapping f) with
      | [] => none
      | values => some (values.map Choice.ofValue)).map (f.key, ·) := by
  unfold discovered?
  split
  . unfold cells
    cases mapping.columnFor? f.key with
    | none =>
      dsimp only
      rw [Field.newChoices_nil]
      rfl
    | some column =>
      dsimp only
      cases f.newChoices (rows.filterMap (KeyMap.get? · column)) with
      | nil => rfl
      | cons value values => rfl
  . next hf =>
    rw [Field.newChoices_of_not_bearsChoices hf]
    rfl

variable {fields : List Field}

theorem discover_isEmpty {rows : List Row} {mapping : ColumnMapping}
    (h : ∀ f ∈ fields, f.newChoices (cells rows mapping f) = [])
    : (discover fields rows mapping).isEmpty = true := by
  have hnone : fields.filterMap (discovered? rows mapping) = [] := by
    rw [List.filterMap_eq_nil_iff]
    intro f hf
    rw [discovered?_eq, h f hf]
    rfl
  unfold discover
  rw [hnone]
  rfl

theorem grow_discover (h : (fields.map Field.key).Nodup) (rows : List Row)
    (mapping : ColumnMapping)
    : grow fields (discover fields rows mapping)
        =
      fields.map fun f => f.learn (cells rows mapping f) := by
  unfold grow
  apply List.map_congr_left
  intro f hf
  have hfind := (KeyMap.find?_key_eq_some_iff Field.key h).2 ⟨hf, rfl⟩
  unfold Field.learn discover
  simp only [funext (discovered?_eq rows mapping)]
  rw [KeyMap.get?_ofList_filterMap Field.key _ h, hfind, Option.bind_some]
  split
  . next hnil => rw [hnil]; rfl
  . rfl

theorem grow_discover_append (h : (fields.map Field.key).Nodup) (rows more : List Row)
    (mapping : ColumnMapping)
    : grow fields (discover fields (rows ++ more) mapping)
        =
      (fields.map fun f => f.learn (cells rows mapping f)).map
        fun f => f.learn (cells more mapping f) := by
  rw [grow_discover h, List.map_map]
  apply List.map_congr_left
  intro f _
  rw [cells_append, Field.learn_append]
  rfl

end Import

end Counterpart
