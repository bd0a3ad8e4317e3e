import Counterpart.KeyMap
import Counterpart.Text.Case

/-!
This module contains sets of texts that are compared by their folded forms. Of several spellings of
one form the set keeps the first.
-/

namespace Counterpart

/-- A set of texts by folded form, with the spelling under which each was first inserted. -/
structure FoldedSet where
  spellings : KeyMap String
  deriving DecidableEq

namespace FoldedSet

def empty : FoldedSet := ⟨.empty⟩

instance : EmptyCollection FoldedSet := ⟨empty⟩

def get? (s : FoldedSet) (text : String) : Option String := s.spellings.get? (Text.fold text)

def contains (s : FoldedSet) (text : String) : Bool := s.spellings.contains (Text.fold text)

def insert (s : FoldedSet) (text : String) : FoldedSet :=
  if s.contains text then s else ⟨s.spellings.insert (Text.fold text) text⟩

def insertNew (s : FoldedSet) (text : String) : Bool × FoldedSet :=
  (!s.contains text, s.insert text)

def size (s : FoldedSet) : Nat := s.spellings.size

def isEmpty (s : FoldedSet) : Bool := s.spellings.isEmpty

def ofList (texts : List String) : FoldedSet := texts.foldl insert empty

end FoldedSet

end Counterpart
