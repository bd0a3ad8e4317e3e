import Counterpart.Proofs.Session.Growth
import Counterpart.Proofs.Session.Invariant
import Counterpart.Proofs.Session.Mapping

/-!
This module contains what becomes of pairings while fields are paired and rows imported. Two fields
are compatible when they are paired. An import that creates choices grows the fields of one form and
leaves the pairings as they are, so two fields stay compatible exactly as long as both have been
given the same values.
-/

namespace Counterpart

namespace Session

/-- A field as it stands after operations: some of them, imports from a column mapped to it, may have
appended choices. -/
structure Gained (side : Side) (operations : List Operation) (f : Field) (extra : Choices)
    (t : Session) : Prop where
  mem : { f with choices := f.choices ++ extra } ∈ (t.schema side).fields
  imported : extra ≠ [] → f.bearsChoices = true
    ∧ ∃ rows mapping column, .importRows side rows mapping true ∈ operations
      ∧ mapping.Maps f.key column

variable {s t u : Session} {side : Side} {op : Operation} {operations before after : List Operation}
variable {f i : Field} {p : Pairing} {extra more : Choices}

theorem Gained.refl (h : f ∈ (t.schema side).fields) (operations : List Operation)
    : Gained side operations f [] t := by
  constructor
  . simpa using h
  . intro hne
    exact absurd rfl hne

theorem Gained.trans (hu : Gained side before f extra u)
    (ht : Gained side after { f with choices := f.choices ++ extra } more t)
    : Gained side (before ++ after) f (extra ++ more) t := by
  constructor
  . have hmem := ht.mem
    rwa [List.append_assoc] at hmem
  . intro hne
    by_cases hextra : extra = []
    . have hmore : more ≠ [] := by
        rintro rfl
        exact hne (by simp [hextra])
      rcases ht.imported hmore with ⟨hf, rows, mapping, column, hmem, hmaps⟩
      exact ⟨hf, rows, mapping, column, List.mem_append_right before hmem, hmaps⟩
    . rcases hu.imported hextra with ⟨hf, rows, mapping, column, hmem, hmaps⟩
      exact ⟨hf, rows, mapping, column, List.mem_append_left after hmem, hmaps⟩

end Session

end Counterpart
