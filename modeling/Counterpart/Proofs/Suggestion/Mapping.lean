import Counterpart.Proofs.Import.Mapping
import Counterpart.Proofs.Suggestion.Assignment

/-!
This module contains what the mapping that follows suggestions says: every suggestion, as no field
is suggested a column twice. A column whose name stands for no column can be suggested, but it
cannot be mapped.
-/

namespace Counterpart

open Numeric ColumnMapping

namespace Suggestion

variable {ss : List Suggestion} {k column : String}

theorem get?_mapping_iff (h : (ss.map key).Nodup)
    : KeyMap.get? (mapping ss) k = some column ↔ ∃ s ∈ ss, s.key = k ∧ s.column = column := by
  unfold mapping
  rw [KeyMap.get?_ofList_eq_some_iff]
  . simp
  . simpa [Function.comp_def] using h

theorem maps_mapping_iff (h : (ss.map key).Nodup)
    : Maps (mapping ss) k column
        ↔
      (∃ s ∈ ss, s.key = k ∧ s.column = column) ∧ column ≠ "" ∧ column ≠ noColumn := by
  unfold Maps
  rw [get?_mapping_iff h]

theorem columnFor?_mapping (h : (ss.map key).Nodup) {s : Suggestion} (hs : s ∈ ss)
    : columnFor? (mapping ss) s.key
        =
      if s.column = "" ∨ s.column = noColumn then none else some s.column := by
  have hget : KeyMap.get? (mapping ss) s.key = some s.column := by
    rw [get?_mapping_iff h]
    exact ⟨s, hs, rfl, rfl⟩
  unfold columnFor?
  rw [hget]
  split
  . next hnone =>
    rw [Option.filter_some, if_neg]
    rw [isColumn_iff, ← not_or, not_not]
    exact hnone
  . next hcolumn =>
    rw [Option.filter_some, if_pos]
    rw [isColumn_iff, ← not_or]
    exact hcolumn

theorem perm_mapped_mapping (h : (ss.map key).Nodup)
    : (mapped (mapping ss)).Perm
        ((ss.filter fun s => s.column ≠ "" ∧ s.column ≠ noColumn).map fun s =>
          (s.key, s.column)) := by
  have hentries : (mapping ss).entries.Perm (ss.map fun s => (s.key, s.column)) := by
    apply KeyMap.perm_entries_ofList
    simpa [Function.comp_def] using h
  have hnames : (fun s : Suggestion => decide (s.column ≠ "" ∧ s.column ≠ noColumn))
      = fun s => isColumn s.column := by
    funext s
    rw [Bool.eq_iff_iff, decide_eq_true_eq, isColumn_iff]
  have hmapped := hentries.filter fun e => isColumn e.2
  rw [List.filter_map] at hmapped
  rw [hnames]
  exact hmapped

/-- The mapping that follows suggestions gives every field the column suggested for it, unless the
column's name stands for no column, and maps no other field. -/
theorem mapping_suggest (p : Preview) (create : Bool) (least : Single) (fields : List Field)
    : (∀ s ∈ suggest p create least fields,
        columnFor? (mapping (suggest p create least fields)) s.key
          =
        if s.column = "" ∨ s.column = noColumn then none else some s.column)
      ∧ (mapped (mapping (suggest p create least fields))).Perm
        (((suggest p create least fields).filter fun s => s.column ≠ "" ∧ s.column ≠ noColumn).map
          fun s => (s.key, s.column)) := by
  refine ⟨?_, perm_mapped_mapping nodup_keys_suggest⟩
  intro s hs
  exact columnFor?_mapping nodup_keys_suggest hs

theorem mapping_suggest_none
    : let id : Field := { key := "id", label := "", kind := .text }
      let unset : Field := { key := "none", label := "", kind := .text }
      let p : Preview := .ofRows [.ofList [("Id", .string "7"), ("none", .string "8")]] 5
      let surely (key column : String) : Suggestion :=
        { key, column, confidence := .ofInt single 1 }
      let ss := suggest p false defaultConfidence [id, unset]
      ss = [surely "id" "Id", surely "none" "none"]
        ∧ columnFor? (mapping ss) "id" = some "Id"
        ∧ columnFor? (mapping ss) "none" = none
        ∧ (mapped (mapping ss)).Perm [("id", "Id")] := by
  intro id unset p surely ss
  have hcandidates : candidates p false defaultConfidence [id, unset]
      = [surely "id" "Id", surely "none" "none"] := by
    decide +kernel
  have hss : ss = [surely "id" "Id", surely "none" "none"] := by
    apply suggest_eq_assign hcandidates
    decide +kernel
  have hid : surely "id" "Id" ∈ ss := by simp [hss]
  have hnone : surely "none" "none" ∈ ss := by simp [hss]
  have ⟨hcolumns, hmapped⟩ := mapping_suggest p false defaultConfidence [id, unset]
  change (mapped (mapping ss)).Perm ((ss.filter _).map _) at hmapped
  refine ⟨hss, hcolumns _ hid, hcolumns _ hnone, ?_⟩
  rw [hss] at hmapped ⊢
  exact hmapped

/-- Not every suggestion is mapped: a header may have a name that stands for no column. -/
theorem exists_suggestion_not_mapped
    : let blank : Field := { key := "_", label := "", kind := .text }
      let unset : Field := { key := "none", label := "", kind := .text }
      let p : Preview := .ofRows [.ofList [("", .string "7"), ("none", .string "8")]] 5
      let surely (key column : String) : Suggestion :=
        { key, column, confidence := .ofInt single 1 }
      let ss := suggest p false defaultConfidence [blank, unset]
      ss = [surely "_" "", surely "none" "none"]
        ∧ ¬ (∀ s ∈ ss, columnFor? (mapping ss) s.key = some s.column)
        ∧ ¬ (mapped (mapping ss)).Perm (ss.map fun s => (s.key, s.column)) := by
  intro blank unset p surely ss
  have hcandidates : candidates p false defaultConfidence [blank, unset]
      = [surely "_" "", surely "none" "none"] := by
    decide +kernel
  have hss : ss = [surely "_" "", surely "none" "none"] := by
    apply suggest_eq_assign hcandidates
    decide +kernel
  rw [hss]
  refine ⟨rfl, ?_, ?_⟩
  . decide +kernel
  . decide +kernel

end Suggestion

end Counterpart
