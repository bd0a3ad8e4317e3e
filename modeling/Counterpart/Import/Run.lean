import Counterpart.Import.Discovery
import Counterpart.Validation.Validator

/-!
This module contains the import of uploaded rows: choices are discovered, rows transformed, and the
results validated against the fields that the choices belong to.
-/

namespace Counterpart

open Json Log

inductive ImportError where
  | unknownField (key : String)
  | notImportable (key kind : String)
  | unknownColumn (key column : String)
  deriving DecidableEq, Repr

def ImportError.message : ImportError → String
  | .unknownField key => "column mapping references unknown field '" ++ key ++ "'"
  | .notImportable key kind =>
    "field '" ++ key ++ "' of type '" ++ kind ++ "' cannot receive imported data"
  | .unknownColumn key column =>
    "column '" ++ column ++ "' mapped to field '" ++ key ++ "' is not present in the import"

structure Rejection where
  row : Nat
  issues : Issues
  deriving DecidableEq

structure Outcome where
  submissions : List Json
  newChoices : Option NewChoices
  rejected : List Rejection
  deriving DecidableEq

/-- An import that is ready to run: every mapped key is that of a field with data. -/
structure Importer where
  fields : List Field
  mapping : ColumnMapping
  createChoices : Bool
  deriving DecidableEq

namespace Importer

def fault? (fields : List Field) (key : String) : Option ImportError :=
  match fields.find? (·.key == key) with
  | none => some (.unknownField key)
  | some f => if f.carriesData then none else some (.notImportable key f.kind.name)

def of (fields : List Field) (mapping : ColumnMapping) (createChoices : Bool)
    : Except ImportError Importer :=
  match mapping.mapped.findSome? fun (key, _) => fault? fields key with
  | some e => .error e
  | none => .ok { fields, mapping, createChoices }

def ensureColumns (i : Importer) (p : Preview) : Except ImportError Unit :=
  match i.mapping.mapped.find? fun (_, column) => !p.hasColumn column with
  | some (key, column) => .error (.unknownColumn key column)
  | none => .ok ()

def discovered (i : Importer) (rows : List Row) : NewChoices :=
  Import.discover i.fields rows i.mapping

def targetFields (i : Importer) (rows : List Row) : List Field :=
  if i.createChoices then Import.grow i.fields (i.discovered rows) else i.fields

def importRow (i : Importer) (fields : List Field) (row : Row) : Except Issues (KeyMap Json) :=
  (Validator.compile fields .importing).validate
    (.ofMap (row.transform fields i.mapping i.createChoices))

def verdicts (i : Importer) (rows : List Row) : List (Except Issues (KeyMap Json) × Nat) :=
  (rows.map (i.importRow (i.targetFields rows))).zipIdx

def run (i : Importer) (rows : List Row) : Outcome where
  submissions := (i.verdicts rows).filterMap fun (verdict, _) =>
    match verdict with
    | .ok data => some (.ofMap data)
    | .error _ => none
  newChoices :=
    if i.createChoices ∧ ¬(i.discovered rows).isEmpty then some (i.discovered rows) else none
  rejected := (i.verdicts rows).filterMap fun (verdict, row) =>
    match verdict with
    | .ok _ => none
    | .error issues => some { row, issues }

def runEvents (i : Importer) (rows : List Row) : List Event :=
  let found := i.discovered rows
  let outcome := i.run rows
  (if i.createChoices then
      [.choicesDiscovered found.size found.values.flatten.length]
    else
      [])
    ++ Validator.compileEvents (i.targetFields rows) .importing
    ++ outcome.rejected.flatMap (fun r =>
      [.candidateFailed r.issues.size, .rowRejected r.row r.issues.size])
    ++ [.imported rows.length outcome.submissions.length outcome.rejected.length i.createChoices]

end Importer

namespace NewChoices

def toJson (n : NewChoices) : Json := .ofMap (n.map fun cs => .array (cs.map Choice.toJson))

def decoder : Decoder NewChoices := .map (.list Choice.decoder)

end NewChoices

namespace Rejection

def toJson (r : Rejection) : Json :=
  .object [("errors", r.issues.toJson), ("row", .ofNat r.row)]

def record : Record Rejection :=
  Rejection.mk <$> .required "row" Decoder.natural <*> .required "errors" Issues.decoder

def decoder : Decoder Rejection := record.decoder "struct RejectedRow"

end Rejection

namespace Outcome

def toJson (o : Outcome) : Json :=
  .object
    (optionalMember "optionsToAdd" (o.newChoices.map NewChoices.toJson)
      ++ [("rejected", .array (o.rejected.map Rejection.toJson)),
        ("submissions", .array o.submissions)])

def record : Record Outcome :=
  Outcome.mk
    <$> .required "submissions" (.list Decoder.any)
    <*> .optional "optionsToAdd" (.nullable NewChoices.decoder) none
    <*> .optional "rejected" (.list Rejection.decoder) []

def decoder : Decoder Outcome := record.decoder "struct ImportOutcome"

end Outcome

end Counterpart
