import Counterpart.Field.Side
import Counterpart.Numeric.Layout

/-!
This module contains the events that operations report. An event carries counts, keys and names of
types; the only place for a submitted value is `fieldRejected`, which holds it as the log may show
it.
-/

namespace Counterpart

inductive Mode where
  | submission
  | importing
  deriving DecidableEq, Repr

def Mode.name : Mode → String
  | .submission => "Submission"
  | .importing => "Import"

namespace Log

inductive Level where
  | error
  | warn
  | info
  | debug
  | trace
  deriving DecidableEq, Repr

namespace Level

def rank : Level → Nat
  | .error => 1
  | .warn => 2
  | .info => 3
  | .debug => 4
  | .trace => 5

def name : Level → String
  | .error => "ERROR"
  | .warn => "WARN"
  | .info => "INFO"
  | .debug => "DEBUG"
  | .trace => "TRACE"

end Level

inductive Event where
  | ruleMissing (field kind : String)
  | compiled (fields : Nat) (mode : Mode)
  | candidateFailed (invalid : Nat)
  | fieldRejected (side : Side) (field issue value : String)
  | schemaReplaced (side : Side) (fields : Nat)
  | columnsSuggested (side : Side) (suggested : Nat)
  | alreadyMapped (founder existing rejected : String)
  | mapped (founder investor : String)
  | edited (founder investor : String)
  | nothingToEdit (founder investor : String)
  | unmapped (founder : String)
  | choicesDiscovered (fields choices : Nat)
  | rowRejected (row errors : Nat)
  | imported (rows accepted rejected : Nat) (createChoices : Bool)
  deriving DecidableEq, Repr

inductive Shown where
  /-- Text without quotes. -/
  | bare (s : String)
  | text (s : String)
  | count (n : Nat)
  | flag (b : Bool)
  deriving DecidableEq, Repr

namespace Event

def level : Event → Level
  | .ruleMissing .. => .warn
  | .schemaReplaced .. => .info
  | .imported .. => .info
  | _ => .debug

def target : Event → String
  | .ruleMissing .. | .compiled .. | .candidateFailed .. => "pairing_validate::compiler"
  | .fieldRejected .. | .schemaReplaced .. | .columnsSuggested .. => "pairing_core::session"
  | .alreadyMapped .. | .mapped .. | .edited .. | .nothingToEdit .. | .unmapped .. =>
    "pairing_map::criteria"
  | .choicesDiscovered .. | .rowRejected .. | .imported .. => "pairing_ingest::importer"

def message : Event → String
  | .ruleMissing .. => "no validation rule for field type, accepting any value"
  | .compiled .. => "compiled schema validator"
  | .candidateFailed .. => "candidate failed validation"
  | .fieldRejected .. => "submission field rejected"
  | .schemaReplaced .. => "schema replaced"
  | .columnsSuggested .. => "column suggestions"
  | .alreadyMapped .. => "founder field already mapped"
  | .mapped .. => "added match field"
  | .edited .. => "edited match field"
  | .nothingToEdit .. => "no match field to edit"
  | .unmapped .. => "removed match field"
  | .choicesDiscovered .. => "discovered new options"
  | .rowRejected .. => "import row rejected"
  | .imported .. => "import complete"

def shown : Event → List (String × Shown)
  | .ruleMissing field kind => [("field", .bare field), ("field_type", .bare kind)]
  | .compiled fields mode => [("fields", .count fields), ("mode", .bare mode.name)]
  | .candidateFailed invalid => [("invalid", .count invalid)]
  | .fieldRejected side field issue value =>
    [("side", .text side.name), ("field", .text field), ("issue", .text issue),
      ("value", .text value)]
  | .schemaReplaced side fields => [("side", .text side.name), ("fields", .count fields)]
  | .columnsSuggested side suggested =>
    [("side", .text side.name), ("suggested", .count suggested)]
  | .alreadyMapped founder existing rejected =>
    [("founder_field", .text founder), ("existing", .bare existing), ("rejected", .text rejected)]
  | .mapped founder investor | .edited founder investor | .nothingToEdit founder investor =>
    [("founder_field", .text founder), ("investor_field", .text investor)]
  | .unmapped founder => [("founder_field", .text founder)]
  | .choicesDiscovered fields choices =>
    [("fields", .count fields), ("options", .count choices)]
  | .rowRejected row errors => [("row", .count row), ("errors", .count errors)]
  | .imported rows accepted rejected createChoices =>
    [("rows", .count rows), ("accepted", .count accepted), ("rejected", .count rejected),
      ("create_options", .flag createChoices)]

def fieldNames (e : Event) : List String := "message" :: e.shown.map Prod.fst

end Event

end Log

end Counterpart
