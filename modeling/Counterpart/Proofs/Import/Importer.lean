import Counterpart.Import.Run
import Counterpart.Proofs.Import.Mapping

/-!
This module contains which mappings an importer takes: every mapped key must be that of a field with
data, and every mapped column must occur in one of the rows.
-/

namespace Counterpart

namespace Preview

theorem hasColumn_ofRows_iff {rows : List Row} {column : String}
    : (ofRows rows rows.length).hasColumn column = true
        ↔
      ∃ row ∈ rows, ∃ j, KeyMap.get? row column = some j := by
  unfold hasColumn ofRows
  dsimp only
  rw [List.take_length, List.contains_iff_mem, List.mem_eraseDups, List.mem_flatMap]
  simp only [KeyMap.mem_keys_iff]

end Preview

namespace Importer

variable {fields : List Field} {mapping : ColumnMapping} {create : Bool} {i : Importer}

theorem fault?_eq_none_iff (hkeys : (fields.map Field.key).Nodup) {key : String}
    : fault? fields key = none ↔ ∃ f ∈ fields, f.key = key ∧ f.carriesData = true := by
  have hfind : ∀ f, fields.find? (·.key == key) = some f ↔ f ∈ fields ∧ f.key = key :=
    fun f => KeyMap.find?_key_eq_some_iff Field.key hkeys
  unfold fault?
  cases hf : fields.find? (·.key == key) with
  | none =>
    simp only [reduceCtorEq, false_iff]
    rintro ⟨f, hmem, hkey, _⟩
    rw [(hfind f).2 ⟨hmem, hkey⟩] at hf
    cases hf
  | some f =>
    have ⟨hmem, hkey⟩ := (hfind f).1 hf
    constructor
    . intro h
      refine ⟨f, hmem, hkey, ?_⟩
      by_contra hnot
      simp [hnot] at h
    . rintro ⟨g, hg, hgkey, hdata⟩
      have := (hfind g).2 ⟨hg, hgkey⟩
      rw [hf] at this
      cases this
      simp [hdata]

theorem of_eq_ok_iff (hkeys : (fields.map Field.key).Nodup)
    : of fields mapping create = .ok i
        ↔
      i = { fields, mapping, createChoices := create }
        ∧ ∀ key column, mapping.Maps key column →
          ∃ f ∈ fields, f.key = key ∧ f.carriesData = true := by
  unfold of
  split
  . next e h =>
    rcases List.exists_of_findSome?_eq_some h with ⟨⟨key, column⟩, hmem, hfault⟩
    rw [ColumnMapping.mem_mapped_iff] at hmem
    simp only [reduceCtorEq, false_iff]
    rintro ⟨_, hall⟩
    dsimp only at hfault
    rw [(fault?_eq_none_iff hkeys).2 (hall key column hmem)] at hfault
    cases hfault
  . next h =>
    simp only [List.findSome?_eq_none_iff, Prod.forall, ColumnMapping.mem_mapped_iff,
      fault?_eq_none_iff hkeys] at h
    constructor
    . intro hi
      cases hi
      exact ⟨rfl, h⟩
    . rintro ⟨rfl, _⟩
      rfl

theorem ensureColumns_eq_ok_iff {rows : List Row}
    : i.ensureColumns (.ofRows rows rows.length) = .ok ()
        ↔
      ∀ key column, i.mapping.Maps key column →
        ∃ row ∈ rows, ∃ j, KeyMap.get? row column = some j := by
  unfold ensureColumns
  split
  . next key column h =>
    have hmem := ColumnMapping.mem_mapped_iff.1 (List.mem_of_find?_eq_some h)
    have hmissing := List.find?_some h
    simp only [reduceCtorEq, false_iff]
    intro hall
    dsimp only at hmissing
    rw [Preview.hasColumn_ofRows_iff.2 (hall key column hmem)] at hmissing
    cases hmissing
  . next h =>
    simp only [List.find?_eq_none, Prod.forall, ColumnMapping.mem_mapped_iff, Bool.not_eq_true,
      Bool.not_eq_false', Preview.hasColumn_ofRows_iff] at h
    simp only [true_iff]
    exact h

end Importer

end Counterpart
