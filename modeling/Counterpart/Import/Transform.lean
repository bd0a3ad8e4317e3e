import Counterpart.Import.Inference
import Counterpart.Import.Mapping

/-!
This module contains the transformation of uploaded rows into the data of submissions. Values that
cannot be brought into a field's type are left out.
-/

namespace Counterpart

namespace Field

def checkedText? (p : String → Bool) (j : Json) : Option Json := do
  let text := Text.trim (← j.scalarText?)
  if p text then some (.string text) else none

def choiceValue? (f : Field) (createChoices : Bool) (text : String) : Option String :=
  match f.choices.normalize? text with
  | some value => some value
  | none => if createChoices then some text else none

def transform? (f : Field) (createChoices : Bool) (j : Json) : Option Json :=
  match f.kind with
  | .button => none
  | .number => j.asNumber?.map fun x => .number (.ofDouble x)
  | .checkbox => j.asBool?.map .bool
  | .select | .radio => do
    let text := Text.trim (← j.scalarText?)
    let value ← f.choiceValue? (createChoices && !text.isEmpty) text
    return .string value
  | .multiselect => do
    let tokens ← Import.cellTokens? j
    let values ← tokens.mapM (f.choiceValue? createChoices)
    if values.isEmpty then none else some (Json.strings values.eraseDups)
  | .date => checkedText? Calendar.isDate j
  | .email => checkedText? Format.isEmail j
  | .url => checkedText? Format.isUrl j
  | .phone => checkedText? Format.isPhone j
  | .text | .textarea | .file => checkedText? (!·.isEmpty) j
  | .unknown _ => some j

end Field

namespace Row

def cell? (row : Row) (mapping : ColumnMapping) (f : Field) : Option Json := do
  let column ← mapping.columnFor? f.key
  let j ← KeyMap.get? row column
  if j.isMissing then none else some j

def transform (row : Row) (fields : List Field) (mapping : ColumnMapping) (createChoices : Bool)
    : KeyMap Json :=
  .ofList <| (fields.filter Field.carriesData).filterMap fun f => do
    let j ← row.cell? mapping f
    return (f.key, ← f.transform? createChoices j)

end Row

end Counterpart
