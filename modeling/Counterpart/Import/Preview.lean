import Counterpart.Format.Scalar

/-!
This module contains uploaded rows and previews of them: the first few rows, and every column that
occurs in those.
-/

namespace Counterpart

abbrev Row := KeyMap Json

structure Preview where
  columns : List String
  rows : List Row
  deriving DecidableEq

namespace Preview

def defaultLimit : Nat := 5

def ofRows (rows : List Row) (limit : Nat) : Preview :=
  let rows := rows.take limit
  { columns := (rows.flatMap KeyMap.keys).eraseDups, rows }

def hasColumn (p : Preview) (column : String) : Bool := p.columns.contains column

def values (p : Preview) (column : String) : List Json :=
  (p.rows.filterMap (KeyMap.get? · column)).filter (!·.isMissing)

end Preview

end Counterpart
