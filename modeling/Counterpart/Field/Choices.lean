import Counterpart.KeyMap
import Counterpart.Text.Case

/-!
This module contains the choices that a field offers. A choice is identified by its value; its
label is what people see. Submitted data must hold a value exactly; imported data may name a choice
by value or label in any case, and then stands for the value.
-/

namespace Counterpart

structure Choice where
  /-- Shown to people; may be empty. -/
  label : String
  /-- What is stored. -/
  value : String
  deriving DecidableEq, Repr

namespace Choice

def ofValue (value : String) : Choice := ⟨value, value⟩

def matchesLoosely (c : Choice) (raw : String) : Bool :=
  let raw := Text.lower (Text.trim raw)
  Text.fold c.value == raw || (!c.label.isEmpty && Text.fold c.label == raw)

end Choice

abbrev Choices := List Choice

namespace Choices

def values (cs : Choices) : List String := cs.map Choice.value

def valueSet (cs : Choices) : KeyMap Unit := .ofList (cs.values.map (·, ()))

def hasValue (cs : Choices) (value : String) : Bool := cs.any (·.value == value)

def findLoosely? (cs : Choices) (raw : String) : Option Choice :=
  let trimmed := Text.trim raw
  -- A value that is the trimmed text goes before all other matches.
  (cs.find? (·.value == trimmed)).or (cs.find? (·.matchesLoosely trimmed))

def namesChoice (cs : Choices) (raw : String) : Bool := (cs.findLoosely? raw).isSome

def normalize? (cs : Choices) (raw : String) : Option String :=
  (cs.findLoosely? raw).map Choice.value

def duplicateValue? (cs : Choices) : Option String := go [] cs
where
  go (seen : List String) : List Choice → Option String
    | [] => none
    | c :: cs => if c.value ∈ seen then some c.value else go (c.value :: seen) cs

end Choices

end Counterpart
