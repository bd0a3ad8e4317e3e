import Counterpart.Import.Inference
import Counterpart.Import.Mapping
import Counterpart.Suggestion.Similarity

/-!
This module contains the suggestion of columns for fields. Only columns whose values fit a field
are candidates; the best score is taken first, and a field or column that is taken is taken for
good.
-/

namespace Counterpart

open Numeric

structure Suggestion where
  key : String
  column : String
  confidence : Finite single
  deriving DecidableEq

namespace Suggestion

def defaultConfidence : Single := .round single false (8 * one) 10

def score (column : String) (f : Field) : Finite single :=
  let normal (s : String) := Text.normalizeChars s.toList
  let byKey := Similarity.jaroWinkler (normal column) (normal f.key)
  let byLabel :=
    if Text.isBlankText f.label then
      .zero
    else
      Similarity.jaroWinkler (normal column) (normal f.label)
  (if byKey.lt byLabel then byLabel else byKey).convert single

def candidates (p : Preview) (createChoices : Bool) (least : Single) (fields : List Field)
    : List Suggestion :=
  (fields.filter Field.carriesData).flatMap fun f =>
    (p.compatibleColumns createChoices f).filterMap fun column =>
      let confidence := score column f
      if least.le (.finite confidence) then some { key := f.key, column, confidence } else none

def goesBefore (a b : Suggestion) : Bool :=
  b.confidence.lt a.confidence || (b.confidence.le a.confidence && a.key ≤ b.key)

def assign (keys columns : List String) : List Suggestion → List Suggestion
  | [] => []
  | s :: ss =>
    if s.key ∈ keys ∨ s.column ∈ columns then
      assign keys columns ss
    else
      s :: assign (s.key :: keys) (s.column :: columns) ss

def suggest (p : Preview) (createChoices : Bool) (least : Single) (fields : List Field)
    : List Suggestion :=
  assign [] [] ((candidates p createChoices least fields).mergeSort goesBefore)

def mapping (ss : List Suggestion) : ColumnMapping :=
  .ofList (ss.map fun s => (s.key, s.column))

end Suggestion

end Counterpart
