import Counterpart.Import.Preview

/-!
This module contains tables with typed columns, and the previews taken from them, in which every
cell is a text.
-/

namespace Counterpart

open Numeric

inductive Cell where
  | missing
  | integer (n : Int)
  | number (x : Double)
  | flag (b : Bool)
  | text (s : String)
  | bytes (bs : List UInt8)
  deriving DecidableEq

structure Column where
  name : String
  cells : List Cell
  deriving DecidableEq

namespace Cell

def layout : Layout := { Number.layout with plus := false }

def numberText : Double → String
  | .finite x => layout.write x
  | .infinite negative => if negative then "-inf" else "inf"
  | .nan => "NaN"

def read? : Cell → Option Json
  | .missing => some .null
  | .integer n => some (.string (toString n))
  | .number x => some (.string (numberText x))
  | .flag b => some (.string (if b then "true" else "false"))
  | .text s => some (.string s)
  | .bytes bs => (String.fromUTF8? ⟨bs.toArray⟩).map .string

end Cell

namespace Preview

def height : List Column → Nat
  | [] => 0
  | c :: _ => c.cells.length

def formTable (columns : List Column) : Bool :=
  columns.all (·.cells.length == height columns)
    && (columns.map Column.name).eraseDups == columns.map Column.name

def rowAt (columns : List (String × List Json)) (i : Nat) : Row :=
  .ofList (columns.filterMap fun (name, cells) => cells[i]?.map (name, ·))

def ofColumns? (columns : List Column) (limit : Nat) : Option Preview :=
  if formTable columns then do
    -- All cells must be readable, also those beyond the limit.
    let read ← columns.mapM fun c => return (c.name, ← c.cells.mapM Cell.read?)
    return {
      columns := columns.map Column.name
      rows := (List.range ((height columns).min limit)).map (rowAt read) }
  else
    none

end Preview

end Counterpart
