import Counterpart.Session.Basic

/-!
This module contains what a session does with uploads: previews, suggested mappings and imports,
which in create mode also grow the form that they import into.
-/

namespace Counterpart

open Log

namespace Session

def preview (s : Session) (rows : List Row) : Preview :=
  .ofRows rows s.settings.imports.previewRows

def suggestions (s : Session) (side : Side) (rows : List Row) (createChoices : Bool)
    : List Suggestion :=
  Suggestion.suggest (s.preview rows) createChoices s.settings.imports.minConfidence
    (s.schema side).fields

def suggestMapping (s : Session) (side : Side) (rows : List Row) (createChoices : Bool)
    : ColumnMapping :=
  Suggestion.mapping (s.suggestions side rows createChoices)

def suggestEvents (s : Session) (side : Side) (rows : List Row) (createChoices : Bool)
    : List Event :=
  [.columnsSuggested side (s.suggestions side rows createChoices).length]

def importer (s : Session) (side : Side) (rows : List Row) (mapping : ColumnMapping)
    (createChoices : Bool) : Except ImportError Importer :=
  match Importer.of (s.schema side).fields mapping createChoices with
  | .error e => .error e
  | .ok i =>
    if rows.isEmpty then
      .ok i
    else
      match i.ensureColumns (.ofRows rows rows.length) with
      | .error e => .error e
      | .ok () => .ok i

def grown (s : Session) (side : Side) (choices : NewChoices) : List Field :=
  Import.grow (s.schema side).fields choices

def importRows (s : Session) (side : Side) (rows : List Row) (mapping : ColumnMapping)
    (createChoices : Bool) : Except SessionError (Outcome × Session) :=
  match s.importer side rows mapping createChoices with
  | .error e => .error (.importing e)
  | .ok i =>
    let outcome := i.run rows
    match outcome.newChoices with
    | none => .ok (outcome, s)
    | some choices =>
      match s.setSchema side (s.grown side choices) with
      | .error e => .error e
      | .ok s => .ok (outcome, s)

def importEvents (s : Session) (side : Side) (rows : List Row) (mapping : ColumnMapping)
    (createChoices : Bool) : List Event :=
  match s.importer side rows mapping createChoices with
  | .error _ => []
  | .ok i =>
    i.runEvents rows ++
      match (i.run rows).newChoices with
      | none => []
      | some choices => setSchemaEvents side (s.grown side choices)

end Session

end Counterpart
