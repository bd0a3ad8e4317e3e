import Counterpart.Field.FoldedSet
import Counterpart.Import.Transform

/-!
This module contains the discovery of choices in uploaded values, and the growth of fields by the
choices discovered.
-/

namespace Counterpart

abbrev NewChoices := KeyMap (List Choice)

namespace Field

def cellTexts (f : Field) : Json → List String
  | .array items => clean (items.filterMap Json.scalarText?)
  | j =>
    match j.scalarText? with
    | none => []
    | some s => clean (if f.kind = .multiselect then Import.tokens s else [s])
where
  clean (texts : List String) : List String := (texts.map Text.trim).filter (!·.isEmpty)

/-- Of texts with one folded form the first. `seen` are texts that came before. -/
def firstSpellings (seen : FoldedSet) : List String → List String
  | [] => []
  | s :: ss =>
    if seen.contains s then
      firstSpellings seen ss
    else
      s :: firstSpellings (seen.insert s) ss

def newChoices (f : Field) (values : List Json) : List String :=
  if f.bearsChoices then
    firstSpellings .empty
      ((values.flatMap f.cellTexts).filter fun s => !f.choices.namesChoice s)
  else
    []

def grow (f : Field) (extra : List Choice) : Field :=
  { f with
    choices := extra.foldl
      (fun cs c => if cs.hasValue c.value then cs else cs ++ [c]) f.choices }

end Field

namespace Import

def discovered? (rows : List Row) (mapping : ColumnMapping) (f : Field)
    : Option (String × List Choice) :=
  if f.bearsChoices then
    match mapping.columnFor? f.key with
    | none => none
    | some column =>
      match f.newChoices (rows.filterMap (KeyMap.get? · column)) with
      | [] => none
      | values => some (f.key, values.map Choice.ofValue)
  else
    none

def discover (fields : List Field) (rows : List Row) (mapping : ColumnMapping) : NewChoices :=
  .ofList (fields.filterMap (discovered? rows mapping))

def grow (fields : List Field) (extra : NewChoices) : List Field :=
  fields.map fun f => f.grow ((KeyMap.get? extra f.key).getD [])

end Import

end Counterpart
