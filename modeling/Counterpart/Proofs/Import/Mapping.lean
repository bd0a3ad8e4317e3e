import Counterpart.Import.Mapping
import Counterpart.Proofs.KeyMap

/-!
This module contains when a mapping fills a field from a column: when it has the column for the key of
the field, and the column's name does not stand for no column.
-/

namespace Counterpart

namespace ColumnMapping

def Maps (m : ColumnMapping) (key column : String) : Prop :=
  KeyMap.get? m key = some column ∧ column ≠ "" ∧ column ≠ noColumn

variable {m : ColumnMapping} {key column : String}

theorem isColumn_iff : isColumn column = true ↔ column ≠ "" ∧ column ≠ noColumn := by
  unfold isColumn
  simp [and_comm]

theorem mem_mapped_iff : (key, column) ∈ m.mapped ↔ m.Maps key column := by
  unfold mapped Maps
  rw [List.mem_filter, KeyMap.get?_eq_some_iff, isColumn_iff]

theorem columnFor?_eq_some_iff : m.columnFor? key = some column ↔ m.Maps key column := by
  unfold columnFor? Maps
  rw [Option.filter_eq_some_iff, isColumn_iff]

end ColumnMapping

end Counterpart
