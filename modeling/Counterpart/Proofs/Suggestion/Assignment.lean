import Counterpart.Proofs.KeyMap
import Counterpart.Suggestion.Assignment

/-!
This module contains that suggestions are a stable assignment of columns to fields: each field and
each column is taken at most once, and a suggestion that was not made lost its field or its column
to one that is at least as sure.
-/

namespace Counterpart

open Numeric

theorem Numeric.Finite.le_iff {f : Format} {x y : Finite f}
    : x.le y = true ↔ x.units ≤ y.units := by
  unfold le
  rw [decide_eq_true_eq]

theorem Numeric.Finite.lt_iff {f : Format} {x y : Finite f}
    : x.lt y = true ↔ x.units < y.units := by
  unfold lt
  rw [decide_eq_true_eq]

namespace Suggestion

variable {a b c s : Suggestion} {ss : List Suggestion} {keys columns : List String}

theorem goesBefore_iff
    : goesBefore a b = true
        ↔
      b.confidence.units < a.confidence.units
        ∨ (b.confidence.units ≤ a.confidence.units ∧ a.key ≤ b.key) := by
  unfold goesBefore
  rw [Bool.or_eq_true, Bool.and_eq_true, Finite.lt_iff, Finite.le_iff, decide_eq_true_eq]

theorem goesBefore_trans (hab : goesBefore a b = true) (hbc : goesBefore b c = true)
    : goesBefore a c = true := by
  rw [goesBefore_iff] at hab hbc ⊢
  rcases hab with hab | ⟨hab, hkeys⟩
  . left
    omega
  . rcases hbc with hbc | ⟨hbc, hmore⟩
    . left
      omega
    . right
      exact ⟨by omega, String.le_trans hkeys hmore⟩

theorem goesBefore_total (a b : Suggestion) : (goesBefore a b || goesBefore b a) = true := by
  rw [Bool.or_eq_true, goesBefore_iff, goesBefore_iff]
  have := String.le_total a.key b.key
  have := Int.lt_trichotomy a.confidence.units b.confidence.units
  grind

theorem confidence_le_of_goesBefore (h : goesBefore a b = true)
    : b.confidence.le a.confidence = true := by
  rw [goesBefore_iff] at h
  rw [Finite.le_iff]
  omega

def Descending (ss : List Suggestion) : Prop :=
  ss.Pairwise fun a b => b.confidence.le a.confidence = true

theorem descending_mergeSort (ss : List Suggestion) : Descending (ss.mergeSort goesBefore) := by
  have hsorted : (ss.mergeSort goesBefore).Pairwise fun a b => goesBefore a b = true := by
    apply List.pairwise_mergeSort
    . intro a b c
      exact goesBefore_trans
    . exact goesBefore_total
  exact hsorted.imp confidence_le_of_goesBefore

theorem assign_sublist (keys columns : List String) (ss : List Suggestion)
    : (assign keys columns ss).Sublist ss := by
  induction ss generalizing keys columns with
  | nil => exact .slnil
  | cons s ss ih =>
    unfold assign
    split
    . exact (ih _ _).cons s
    . exact (ih _ _).cons_cons s

theorem free_of_mem_assign (h : s ∈ assign keys columns ss)
    : s.key ∉ keys ∧ s.column ∉ columns := by
  induction ss generalizing keys columns with
  | nil => cases h
  | cons t ss ih =>
    unfold assign at h
    split at h
    . exact ih h
    . next hfree =>
      rcases List.mem_cons.1 h with rfl | h
      . exact not_or.1 hfree
      . have ⟨hkey, hcolumn⟩ := ih h
        exact ⟨List.not_mem_of_not_mem_cons hkey, List.not_mem_of_not_mem_cons hcolumn⟩

theorem pairwise_ne_assign (keys columns : List String) (ss : List Suggestion)
    : (assign keys columns ss).Pairwise fun a b => a.key ≠ b.key ∧ a.column ≠ b.column := by
  induction ss generalizing keys columns with
  | nil => exact .nil
  | cons s ss ih =>
    unfold assign
    split
    . exact ih _ _
    . refine List.pairwise_cons.2 ⟨?_, ih _ _⟩
      intro t ht
      have ⟨hkey, hcolumn⟩ := free_of_mem_assign ht
      exact ⟨(List.ne_of_not_mem_cons hkey).symm, (List.ne_of_not_mem_cons hcolumn).symm⟩

/-- What is passed over lost its field or its column, either to what was taken before or to
something that is at least as sure. -/
theorem taken_or_exists_mem_assign (keys columns : List String) (hss : Descending ss) (hs : s ∈ ss)
    : (s.key ∈ keys ∨ s.column ∈ columns)
        ∨ ∃ t ∈ assign keys columns ss,
          s.confidence.le t.confidence = true ∧ (t.key = s.key ∨ t.column = s.column) := by
  induction ss generalizing keys columns with
  | nil => cases hs
  | cons t ss ih =>
    have ⟨hhead, htail⟩ := List.pairwise_cons.1 hss
    have hsure : s.confidence.le t.confidence = true := by
      rcases List.mem_cons.1 hs with rfl | hs
      . exact Finite.le_iff.2 (Int.le_refl _)
      . exact hhead s hs
    unfold assign
    split
    . next htaken =>
      rcases List.mem_cons.1 hs with rfl | hs
      . exact .inl htaken
      . exact ih keys columns htail hs
    . rcases List.mem_cons.1 hs with rfl | hs
      . exact .inr ⟨s, List.mem_cons_self, hsure, .inl rfl⟩
      -- What `s` lost its field or column to was taken before, or it is `t`, which is as sure.
      . rcases ih (t.key :: keys) (t.column :: columns) htail hs
          with (hkey | hcolumn) | ⟨u, hu, hblocks⟩
        . rcases List.mem_cons.1 hkey with hkey | hkey
          . exact .inr ⟨t, List.mem_cons_self, hsure, .inl hkey.symm⟩
          . exact .inl (.inl hkey)
        . rcases List.mem_cons.1 hcolumn with hcolumn | hcolumn
          . exact .inr ⟨t, List.mem_cons_self, hsure, .inr hcolumn.symm⟩
          . exact .inl (.inr hcolumn)
        . exact .inr ⟨u, List.mem_cons_of_mem t hu, hblocks⟩

variable {p : Preview} {create : Bool} {least : Single} {fields : List Field}

/-- Whether a suggestion can be made: it joins a field with data to a column that fits it, as sure
as they are similar and as sure as is asked for. -/
def Admissible (p : Preview) (create : Bool) (least : Single) (fields : List Field)
    (s : Suggestion) : Prop :=
  ∃ f ∈ fields, f.carriesData = true ∧ f.key = s.key ∧ s.column ∈ p.compatibleColumns create f
    ∧ s.confidence = score s.column f ∧ least.le (.finite s.confidence) = true

theorem mem_candidates_iff
    : s ∈ candidates p create least fields ↔ Admissible p create least fields s := by
  unfold candidates Admissible
  simp only [List.mem_flatMap, List.mem_filter, List.mem_filterMap]
  constructor
  . rintro ⟨f, ⟨hf, hdata⟩, column, hcolumn, hs⟩
    split at hs
    . next hleast =>
      cases hs
      refine ⟨f, hf, hdata, rfl, hcolumn, ?_⟩
      dsimp only
      exact ⟨rfl, hleast⟩
    . cases hs
  . rintro ⟨f, hf, hdata, hkey, hcolumn, hscore, hleast⟩
    refine ⟨f, ⟨hf, hdata⟩, s.column, hcolumn, ?_⟩
    rw [← hscore, if_pos hleast, hkey]

theorem admissible_of_mem_suggest (h : s ∈ suggest p create least fields)
    : Admissible p create least fields s := by
  rw [← mem_candidates_iff, ← List.mem_mergeSort]
  exact (assign_sublist _ _ _).mem h

theorem nodup_keys_suggest : ((suggest p create least fields).map key).Nodup := by
  apply List.pairwise_map.2
  exact (pairwise_ne_assign _ _ _).imp And.left

theorem nodup_columns_suggest : ((suggest p create least fields).map column).Nodup := by
  apply List.pairwise_map.2
  exact (pairwise_ne_assign _ _ _).imp And.right

theorem descending_suggest : Descending (suggest p create least fields) :=
  (descending_mergeSort _).sublist (assign_sublist _ _ _)

theorem suggest_eq_assign (h : candidates p create least fields = ss)
    (hss : ss.Pairwise fun a b => goesBefore a b = true)
    : suggest p create least fields = assign [] [] ss := by
  unfold suggest
  rw [h, List.mergeSort_of_pairwise hss]

theorem exists_mem_suggest_of_admissible (h : Admissible p create least fields s)
    : ∃ t ∈ suggest p create least fields,
        s.confidence.le t.confidence = true ∧ (t.key = s.key ∨ t.column = s.column) := by
  have hs : s ∈ (candidates p create least fields).mergeSort goesBefore := by
    rw [List.mem_mergeSort, mem_candidates_iff]
    exact h
  rcases taken_or_exists_mem_assign [] [] (descending_mergeSort _) hs
    with (hkey | hcolumn) | hblocked
  . cases hkey
  . cases hcolumn
  . exact hblocked

/-- Suggestions take every field and every column at most once, are admissible, and come the surest
first. Every admissible suggestion shares its field or its column with one that is made and is at
least as sure. -/
theorem suggest_stable (p : Preview) (create : Bool) (least : Single) (fields : List Field)
    : ((suggest p create least fields).map key).Nodup
        ∧ ((suggest p create least fields).map column).Nodup
        ∧ (∀ s ∈ suggest p create least fields, Admissible p create least fields s)
        ∧ (suggest p create least fields).Pairwise
          (fun s t => t.confidence.le s.confidence = true)
        ∧ ∀ s, Admissible p create least fields s →
          ∃ t ∈ suggest p create least fields,
            s.confidence.le t.confidence = true ∧ (t.key = s.key ∨ t.column = s.column) := by
  refine ⟨nodup_keys_suggest, nodup_columns_suggest, ?_, descending_suggest, ?_⟩
  . intro s hs
    exact admissible_of_mem_suggest hs
  . intro s hs
    exact exists_mem_suggest_of_admissible hs

theorem suggest_stable_id
    : let id : Field := { key := "id", label := "No", kind := .text }
      let no : Field := { key := "no", label := "", kind := .text }
      let go : Field := { key := "go", label := "No", kind := .button }
      let p : Preview := .ofRows [.ofList [("Id", .string "7"), ("No", .string "8")]] 5
      let surely (key column : String) : Suggestion :=
        { key, column, confidence := .ofInt single 1 }
      let ss := suggest p false defaultConfidence [id, no, go]
      ss = [surely "id" "Id", surely "no" "No"]
        ∧ Admissible p false defaultConfidence [id, no, go] (surely "id" "No")
        ∧ ∃ t ∈ ss, (surely "id" "No").confidence.le t.confidence = true
          ∧ (t.key = "id" ∨ t.column = "No") := by
  intro id no go p surely ss
  have hcandidates : candidates p false defaultConfidence [id, no, go]
      = [surely "id" "Id", surely "id" "No", surely "no" "No"] := by
    decide +kernel
  have hss : ss = [surely "id" "Id", surely "no" "No"] := by
    apply suggest_eq_assign hcandidates
    decide +kernel
  have hlost : Admissible p false defaultConfidence [id, no, go] (surely "id" "No") := by
    rw [← mem_candidates_iff, hcandidates]
    simp
  have ⟨_, _, _, _, hblocked⟩ := suggest_stable p false defaultConfidence [id, no, go]
  exact ⟨hss, hlost, hblocked (surely "id" "No") hlost⟩

end Suggestion

end Counterpart
