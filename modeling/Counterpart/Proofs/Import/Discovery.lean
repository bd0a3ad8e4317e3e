import Counterpart.Import.Discovery
import Counterpart.Proofs.Field.Choices
import Counterpart.Proofs.Field.FoldedSet
import Counterpart.Proofs.Import.Tokens

/-!
This module contains what the discovery of choices finds: the first spelling of every text in a
column that names no choice yet, and nothing else.
-/

namespace Counterpart

open Text

namespace Field

variable {seen : FoldedSet} {ss : List String} {s t : String}

theorem firstSpellings_cons (seen : FoldedSet) (s : String) (ss : List String)
    : firstSpellings seen (s :: ss)
        =
      if seen.contains s then
        firstSpellings seen ss
      else
        s :: firstSpellings (seen.insert s) ss := by
  rfl

theorem mem_of_mem_firstSpellings (h : s ∈ firstSpellings seen ss)
    : s ∈ ss ∧ ¬ seen.contains s = true := by
  induction ss generalizing seen with
  | nil => simp [firstSpellings] at h
  | cons t ss ih =>
    rw [firstSpellings_cons] at h
    split at h
    . have ⟨hmem, hseen⟩ := ih h
      exact ⟨List.mem_cons_of_mem t hmem, hseen⟩
    . next ht =>
      rcases List.mem_cons.1 h with rfl | h
      . exact ⟨List.mem_cons_self, ht⟩
      . have ⟨hmem, hseen⟩ := ih h
        refine ⟨List.mem_cons_of_mem t hmem, ?_⟩
        intro hs
        apply hseen
        rw [FoldedSet.contains_insert]
        exact .inl hs

theorem exists_mem_firstSpellings (seen : FoldedSet) (h : t ∈ ss)
    : seen.contains t = true ∨ ∃ s ∈ firstSpellings seen ss, fold s = fold t := by
  induction ss generalizing seen with
  | nil => simp at h
  | cons u ss ih =>
    rw [firstSpellings_cons]
    split
    . next hu =>
      rcases List.mem_cons.1 h with rfl | h
      . exact .inl hu
      . exact ih seen h
    . rcases List.mem_cons.1 h with rfl | h
      . exact .inr ⟨t, List.mem_cons_self, rfl⟩
      . rcases ih (seen.insert u) h with hseen | ⟨s, hs, heq⟩
        . rcases FoldedSet.contains_insert.1 hseen with hseen | heq
          . exact .inl hseen
          . exact .inr ⟨u, List.mem_cons_self, heq⟩
        . exact .inr ⟨s, List.mem_cons_of_mem u hs, heq⟩

theorem pairwise_firstSpellings (seen : FoldedSet) (ss : List String)
    : (firstSpellings seen ss).Pairwise fun s t => fold s ≠ fold t := by
  induction ss generalizing seen with
  | nil => exact .nil
  | cons u ss ih =>
    rw [firstSpellings_cons]
    split
    . apply ih
    . apply List.Pairwise.cons
      . intro t ht heq
        apply (mem_of_mem_firstSpellings ht).2
        rw [FoldedSet.contains_insert]
        exact .inr heq
      . apply ih

theorem firstSpellings_append (seen : FoldedSet) (ss ts : List String)
    : firstSpellings seen (ss ++ ts)
        =
      firstSpellings seen ss ++ firstSpellings (ss.foldl FoldedSet.insert seen) ts := by
  induction ss generalizing seen with
  | nil => rfl
  | cons s ss ih =>
    rw [List.cons_append, List.foldl_cons, firstSpellings_cons, firstSpellings_cons]
    split
    . next hs =>
      have hinsert : seen.insert s = seen := by
        unfold FoldedSet.insert
        simp [hs]
      rw [ih, hinsert]
    . rw [ih, List.cons_append]

/-- Texts that are skipped because of their form may as well be taken out beforehand. -/
theorem firstSpellings_eq_filter (rest : FoldedSet) (skip : String → Bool)
    (h : ∀ t ∈ ss, seen.contains t = true ↔ skip t = true ∨ rest.contains t = true)
    : firstSpellings seen ss = firstSpellings rest (ss.filter (!skip ·)) := by
  induction ss generalizing seen rest with
  | nil => rfl
  | cons s ss ih =>
    have hs := h s List.mem_cons_self
    have htail := fun t ht => h t (List.mem_cons_of_mem s ht)
    cases hskip : skip s with
    | true =>
      have hseen : seen.contains s = true := hs.2 (.inl hskip)
      rw [List.filter_cons_of_neg (by simp [hskip])]
      rw [firstSpellings_cons, if_pos hseen]
      exact ih rest htail
    | false =>
      have hiff : seen.contains s = rest.contains s := by
        rw [Bool.eq_iff_iff, hs, hskip]
        simp
      rw [List.filter_cons_of_pos (by simp [hskip])]
      rw [firstSpellings_cons, firstSpellings_cons, hiff]
      split
      . exact ih rest htail
      . congr 1
        -- The new text counts as seen on both sides, which keeps `h` for the rest.
        apply ih
        intro t ht
        rw [FoldedSet.contains_insert, FoldedSet.contains_insert, htail t ht, or_assoc]

variable {f : Field} {values : List Json} {j : Json}

theorem clean_tokens (s : String) : cellTexts.clean (Import.tokens s) = Import.tokens s := by
  have hmap : (Import.tokens s).map trim = Import.tokens s := by
    rw [List.map_congr_left fun t ht => (Import.trimmed_of_mem_tokens ht).1]
    apply List.map_id'
  unfold cellTexts.clean
  rw [hmap, List.filter_eq_self]
  intro t ht
  simpa using (Import.trimmed_of_mem_tokens ht).2

theorem trimmed_of_mem_cellTexts (h : t ∈ f.cellTexts j) : trim t = t ∧ t ≠ "" := by
  have hclean : ∀ {texts : List String}, t ∈ cellTexts.clean texts → trim t = t ∧ t ≠ "" := by
    intro texts h
    rcases List.mem_filter.1 h with ⟨hmem, hne⟩
    rcases List.mem_map.1 hmem with ⟨u, _, rfl⟩
    rw [trim_trim]
    exact ⟨rfl, by simpa using hne⟩
  unfold cellTexts at h
  split at h
  . exact hclean h
  . split at h
    . simp at h
    . exact hclean h

theorem cellTexts_of_isMissing (f : Field) (h : j.isMissing = true) : f.cellTexts j = [] := by
  unfold cellTexts
  cases j with
  | null => rfl
  | string s =>
    have hblank : isBlankText s = true := h
    simp only [Json.scalarText?, Import.tokens_of_isBlankText hblank]
    split
    . rfl
    . simp [cellTexts.clean, trim_of_isBlankText hblank]
  | array items =>
    rw [List.isEmpty_iff.1 h]
    rfl
  | bool | number | object => cases h

theorem exists_scalarText_of_mem_cellTexts (hkind : f.kind ≠ .multiselect)
    (hlist : ∀ items, j ≠ .array items) (h : t ∈ f.cellTexts j)
    : ∃ s, j.scalarText? = some s ∧ trim s = t := by
  unfold cellTexts at h
  split at h
  . next items => exact absurd rfl (hlist items)
  . split at h
    . cases h
    . next s hs =>
      rw [if_neg hkind] at h
      rcases List.mem_map.1 (List.mem_filter.1 h).1 with ⟨u, hu, rfl⟩
      rw [List.mem_singleton.1 hu]
      exact ⟨s, hs, rfl⟩

theorem newChoices_eq (hf : f.bearsChoices = true) (values : List Json)
    : f.newChoices values
        =
      firstSpellings .empty
        ((values.flatMap f.cellTexts).filter fun s => !f.choices.namesChoice s) := by
  unfold newChoices
  rw [if_pos hf]

theorem newChoices_of_not_bearsChoices (hf : ¬ f.bearsChoices = true) (values : List Json)
    : f.newChoices values = [] := by
  unfold newChoices
  rw [if_neg hf]

@[simp]
theorem newChoices_nil (f : Field) : f.newChoices [] = [] := by
  unfold newChoices
  split
  . rfl
  . rfl

theorem mem_newChoices (h : t ∈ f.newChoices values)
    : t ∈ values.flatMap f.cellTexts ∧ ¬ f.choices.namesChoice t = true := by
  by_cases hf : f.bearsChoices = true
  . rw [newChoices_eq hf] at h
    have hmem := (mem_of_mem_firstSpellings h).1
    rw [List.mem_filter] at hmem
    simpa using hmem
  . rw [newChoices_of_not_bearsChoices hf] at h
    simp at h

theorem trimmed_of_mem_newChoices (h : t ∈ f.newChoices values) : trim t = t ∧ t ≠ "" := by
  rcases List.mem_flatMap.1 (mem_newChoices h).1 with ⟨j, _, ht⟩
  exact trimmed_of_mem_cellTexts ht

theorem fold_ne_of_mem_newChoices (h : t ∈ f.newChoices values) : fold t ≠ "" := by
  have ⟨htrim, hne⟩ := trimmed_of_mem_newChoices h
  exact fold_ne_empty htrim hne

theorem bearsChoices_of_mem_newChoices (h : t ∈ f.newChoices values) : f.bearsChoices = true := by
  by_contra hnot
  rw [newChoices_of_not_bearsChoices hnot] at h
  cases h

theorem pairwise_newChoices (f : Field) (values : List Json)
    : (f.newChoices values).Pairwise fun s t => fold s ≠ fold t := by
  unfold newChoices
  split
  . apply pairwise_firstSpellings
  . exact .nil

theorem eq_of_mem_newChoices (hs : s ∈ f.newChoices values) (ht : t ∈ f.newChoices values)
    (h : fold s = fold t)
    : s = t := by
  have hnodup : ((f.newChoices values).map fold).Nodup :=
    List.pairwise_map.2 (f.pairwise_newChoices values)
  exact List.inj_on_of_nodup_map hnodup hs ht h

theorem namesChoice_or_mem_newChoices (hf : f.bearsChoices = true)
    (h : t ∈ values.flatMap f.cellTexts)
    : f.choices.namesChoice t = true ∨ ∃ s ∈ f.newChoices values, fold s = fold t := by
  by_cases ht : f.choices.namesChoice t = true
  . exact .inl ht
  . rw [newChoices_eq hf]
    have hmem : t ∈ (values.flatMap f.cellTexts).filter fun s => !f.choices.namesChoice s := by
      rw [List.mem_filter]
      exact ⟨h, by simpa using ht⟩
    rcases exists_mem_firstSpellings .empty hmem with hseen | hnew
    . simp at hseen
    . exact .inr hnew

end Field

end Counterpart
