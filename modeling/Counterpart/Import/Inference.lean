import Counterpart.Calendar.Timestamp
import Counterpart.Field.Basic
import Counterpart.Format.Address
import Counterpart.Import.Preview
import Counterpart.Import.Tokens

/-!
This module contains the inference of columns: a column is offered for a field if at least one of
its previewed values fits the field's type.
-/

namespace Counterpart

namespace Field

def textFits (p : String → Bool) (j : Json) : Bool := j.scalarText?.any p

def fits (f : Field) (createChoices : Bool) (j : Json) : Bool :=
  match f.kind with
  | .button => false
  | .number => j.asNumber?.isSome
  | .checkbox => j.asBool?.isSome
  -- With choices being created any text fits, because a choice will be made of it.
  | .select | .radio => textFits (fun s => createChoices || f.choices.namesChoice s) j
  | .multiselect =>
    (Import.cellTokens? j).any fun tokens =>
      !tokens.isEmpty && (createChoices || tokens.all f.choices.namesChoice)
  | .date => textFits Calendar.isDate j
  | .email => textFits Format.isEmail j
  | .url => textFits Format.isUrl j
  | .phone => textFits Format.isPhone j
  | .text | .textarea | .file | .unknown _ => true

end Field

namespace Preview

def columnFits (p : Preview) (createChoices : Bool) (f : Field) (column : String) : Bool :=
  (p.values column).any (f.fits createChoices)

def compatibleColumns (p : Preview) (createChoices : Bool) (f : Field) : List String :=
  p.columns.filter (p.columnFits createChoices f)

def columnMatrix (p : Preview) (createChoices : Bool) (fields : List Field)
    : KeyMap (List String) :=
  .ofList ((fields.filter Field.carriesData).map fun f =>
    (f.key, p.compatibleColumns createChoices f))

end Preview

end Counterpart
