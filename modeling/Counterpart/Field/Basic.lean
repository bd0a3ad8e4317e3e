import Counterpart.Field.Bounds
import Counterpart.Field.Choices
import Counterpart.Field.Kind

/-!
This module contains form fields.
-/

namespace Counterpart

structure Field where
  key : String
  label : String
  kind : FieldKind
  required : Bool := false
  choices : Choices := []
  bounds : Option Bounds := none
  /-- Marks a field that is scored elsewhere. -/
  personalityDerived : Bool := false
  deriving DecidableEq

namespace Field

def bearsChoices (f : Field) : Bool := f.kind.bearsChoices

def carriesData (f : Field) : Bool := f.kind.carriesData

end Field

end Counterpart
