import Counterpart.Proofs.Session.Growth
import Counterpart.Proofs.Suggestion.Mapping

/-!
This module contains that a suggested mapping can be imported. The preview from which columns are
suggested holds some of the rows, so a column that it has is one that the upload has.
-/

namespace Counterpart

open ColumnMapping

theorem Preview.exists_cell_of_mem_columns {rows : List Row} {limit : Nat} {column : String}
    (h : column ∈ (ofRows rows limit).columns)
    : ∃ row ∈ rows, ∃ j, KeyMap.get? row column = some j := by
  unfold ofRows at h
  dsimp only at h
  rw [List.mem_eraseDups, List.mem_flatMap] at h
  rcases h with ⟨row, hrow, hcolumn⟩
  exact ⟨row, List.mem_of_mem_take hrow, KeyMap.mem_keys_iff.1 hcolumn⟩

namespace Session

variable {s : Session} {side : Side} {rows : List Row} {create : Bool} {key column : String}

theorem exists_field_of_maps_suggestMapping
    (h : Maps (s.suggestMapping side rows create) key column)
    : ∃ f ∈ (s.schema side).fields, f.key = key ∧ f.carriesData = true
        ∧ column ∈ (s.preview rows).compatibleColumns create f := by
  unfold suggestMapping suggestions at h
  rw [Suggestion.maps_mapping_iff Suggestion.nodup_keys_suggest] at h
  rcases h with ⟨⟨suggestion, hmem, hkey, hcolumn⟩, _⟩
  rcases Suggestion.admissible_of_mem_suggest hmem with ⟨f, hf, hdata, hfkey, hfits, _⟩
  rw [hcolumn] at hfits
  exact ⟨f, hf, hfkey.trans hkey, hdata, hfits⟩

theorem exists_cell_of_maps_suggestMapping
    (h : Maps (s.suggestMapping side rows create) key column)
    : ∃ row ∈ rows, ∃ j, KeyMap.get? row column = some j := by
  rcases exists_field_of_maps_suggestMapping h with ⟨f, _, _, _, hfits⟩
  apply Preview.exists_cell_of_mem_columns
  exact List.mem_of_mem_filter hfits

/-- The mapping that a session suggests for rows is never refused when these rows are imported, with
new choices being created or not. -/
theorem importRows_suggestMapping (s : Session) (side : Side) (rows : List Row)
    (suggesting importing : Bool)
    : ∃ outcome t, s.importRows side rows (s.suggestMapping side rows suggesting) importing
        = .ok (outcome, t) := by
  have himporter : ∃ i,
      s.importer side rows (s.suggestMapping side rows suggesting) importing = .ok i := by
    rw [exists_importer_iff]
    constructor
    . intro key column hmaps
      rcases exists_field_of_maps_suggestMapping hmaps with ⟨f, hf, hkey, hdata, _⟩
      exact ⟨f, hf, hkey, hdata⟩
    . right
      intro key column hmaps
      exact exists_cell_of_maps_suggestMapping hmaps
  rcases himporter with ⟨i, hi⟩
  rcases exists_importRows_of_importer hi with ⟨t, ht⟩
  exact ⟨i.run rows, t, ht⟩

end Session

end Counterpart
