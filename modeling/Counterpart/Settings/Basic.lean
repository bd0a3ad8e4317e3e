import Counterpart.Import.Preview
import Counterpart.Suggestion.Assignment

/-!
This module contains the settings of a deployment and their defaults.
-/

namespace Counterpart

open Numeric

inductive LogFormat where
  | pretty
  | compact
  | json
  deriving DecidableEq, Repr

structure ImportSettings where
  previewRows : Nat := Preview.defaultLimit
  createChoices : Bool := false
  minConfidence : Single := Suggestion.defaultConfidence
  deriving DecidableEq

structure CriteriaSettings where
  defaultWeight : Option Double := none
  deriving DecidableEq

structure LoggingSettings where
  level : String := "info"
  format : LogFormat := .pretty
  /-- The file that events are appended to, in place of the error stream. -/
  file : Option String := none
  /-- Whether submitted values may be logged. -/
  logData : Bool := false
  deriving DecidableEq

structure Settings where
  imports : ImportSettings := {}
  criteria : CriteriaSettings := {}
  logging : LoggingSettings := {}
  deriving DecidableEq

namespace Settings

def sameNumber : Option Double → Option Double → Bool
  | none, none => true
  | some x, some y => x.same y
  | _, _ => false

def agrees (s t : Settings) : Bool :=
  s.imports.previewRows == t.imports.previewRows
    && s.imports.createChoices == t.imports.createChoices
    && s.imports.minConfidence.same t.imports.minConfidence
    -- A weight that is no number does not agree with itself.
    && sameNumber s.criteria.defaultWeight t.criteria.defaultWeight
    && s.logging == t.logging

end Settings

end Counterpart
