import Counterpart.Field.Basic

/-!
This module contains the relation between fields that may be paired. Two fields with choices may be
paired if their choices have the same values, whatever the labels, the order and the type; two
other fields if they have the same type. Buttons are never paired, and a type that is not known
only with itself.
-/

namespace Counterpart

namespace Field

def isCompatible (a b : Field) : Bool :=
  match a.kind, b.kind with
  | .button, _ | _, .button => false
  | .unknown m, .unknown n => Text.lowerAscii m == Text.lowerAscii n
  | k, l =>
    if k.bearsChoices ∧ l.bearsChoices then
      a.choices.valueSet = b.choices.valueSet
    else
      k = l

def compatibleWith (f : Field) (candidates : List Field) : List Field :=
  candidates.filter f.isCompatible

end Field

end Counterpart
