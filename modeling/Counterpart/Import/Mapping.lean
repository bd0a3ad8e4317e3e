import Counterpart.KeyMap

/-!
This module contains column mappings, which say from which column of an upload a field is filled.
-/

namespace Counterpart

/-- The columns chosen for fields, by field key. A column that is empty or called `none` means that
the field is left out. -/
abbrev ColumnMapping := KeyMap String

namespace ColumnMapping

def noColumn : String := "none"

def isColumn (column : String) : Bool := column != noColumn && !column.isEmpty

def columnFor? (m : ColumnMapping) (key : String) : Option String :=
  (KeyMap.get? m key).filter isColumn

def mapped (m : ColumnMapping) : List (String × String) :=
  m.entries.filter fun (_, column) => isColumn column

def unset (m : ColumnMapping) (key : String) : ColumnMapping := KeyMap.insert m key noColumn

def isVoid (m : ColumnMapping) : Bool := m.mapped.isEmpty

end ColumnMapping

end Counterpart
