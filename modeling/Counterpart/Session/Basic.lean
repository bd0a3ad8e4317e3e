import Counterpart.Compatibility.Matrix
import Counterpart.Criteria.Store
import Counterpart.Import.Run
import Counterpart.Settings.Basic

/-!
This module contains sessions: the two forms of a pipeline with their validators, the criteria that
pair their fields, and the settings. Operations give a new session or leave the old one; what they
report to the log stands beside each of them.
-/

namespace Counterpart

open Log

structure Form where
  schema : Schema
  validator : Validator
  deriving DecidableEq

namespace Form

def ofSchema (schema : Schema) : Form where
  schema := schema
  validator := .compile schema.fields .submission

def compileEvents (schema : Schema) : List Event :=
  Validator.compileEvents schema.fields .submission

end Form

structure Session where
  settings : Settings
  founder : Form
  investor : Form
  criteria : Criteria
  deriving DecidableEq

inductive SessionError where
  | schema (side : Side) (cause : SchemaError)
  | criteria (cause : CriteriaError)
  | importing (cause : ImportError)
  | unknownFounder (key : String)
  | unknownInvestor (key : String)
  | incompatible (founder founderKind investor investorKind : String)
  /-- A pairing that was just added is not there. -/
  | pairingLost
  deriving DecidableEq

def SessionError.message : SessionError → String
  | .schema side cause => side.name ++ " schema: " ++ cause.message
  | .criteria cause => cause.message
  | .importing cause => cause.message
  | .unknownFounder key => "unknown founder field '" ++ key ++ "'"
  | .unknownInvestor key => "unknown investor field '" ++ key ++ "'"
  | .incompatible founder founderKind investor investorKind =>
    "founder field '" ++ founder ++ "' (" ++ founderKind
      ++ ") is not compatible with investor field '" ++ investor ++ "' (" ++ investorKind ++ ")"
  | .pairingLost => "mapped field missing after insert"

namespace Session

def checkSchema (side : Side) (fields : List Field) : Except SessionError Schema :=
  match Schema.ofFields? fields with
  | .ok schema => .ok schema
  | .error e => .error (.schema side e)

def create (founderFields investorFields : List Field) (criteria : Criteria) (settings : Settings)
    : Except SessionError Session :=
  match checkSchema .founder founderFields with
  | .error e => .error e
  | .ok founder =>
    match checkSchema .investor investorFields with
    | .error e => .error e
    | .ok investor =>
      .ok { settings, founder := .ofSchema founder, investor := .ofSchema investor, criteria }

def createEvents (s : Session) : List Event :=
  Form.compileEvents s.founder.schema ++ Form.compileEvents s.investor.schema

def form (s : Session) : Side → Form
  | .founder => s.founder
  | .investor => s.investor

def schema (s : Session) (side : Side) : Schema := (s.form side).schema

def setForm (s : Session) (side : Side) (form : Form) : Session :=
  match side with
  | .founder => { s with founder := form }
  | .investor => { s with investor := form }

def setSchema (s : Session) (side : Side) (fields : List Field) : Except SessionError Session :=
  match checkSchema side fields with
  | .error e => .error e
  | .ok schema => .ok (s.setForm side (.ofSchema schema))

def setSchemaEvents (side : Side) (fields : List Field) : List Event :=
  match checkSchema side fields with
  | .error _ => []
  | .ok schema => .schemaReplaced side schema.size :: Form.compileEvents schema

def validate (s : Session) (side : Side) (candidate : Json) : Except Issues (KeyMap Json) :=
  (s.form side).validator.validate candidate

def validateEvents (s : Session) (redact : String → String) (side : Side) (candidate : Json)
    : List Event :=
  (s.form side).validator.validateEvents candidate ++
    match s.validate side candidate with
    | .ok _ => []
    | .error issues => issues.entries.map fun (key, issue) =>
      let raw := ((candidate.member? key).map Json.write).getD ""
      .fieldRejected side key issue.code (redact raw)

def compatibility (s : Session) : Matrix :=
  .build s.founder.schema.fields s.investor.schema.fields

def availableFounders (s : Session) : List Field :=
  s.founder.schema.dataFields.filter fun f => !s.criteria.mentions f.key

def counterparts (s : Session) (founder : String) : List Field :=
  match s.founder.schema.get? founder with
  | none => []
  | some f =>
    (f.compatibleWith s.investor.schema.fields).filter fun i => !s.criteria.mentions i.key

def soleCounterpart? (s : Session) (founder : String) : Option Field :=
  match s.counterparts founder with
  | [f] => some f
  | _ => none

def checkPair (s : Session) (founder investor : String) : Except SessionError Unit :=
  match s.founder.schema.get? founder, s.investor.schema.get? investor with
  | none, _ => .error (.unknownFounder founder)
  | some _, none => .error (.unknownInvestor investor)
  | some f, some i =>
    if f.isCompatible i then
      .ok ()
    else
      .error (.incompatible founder f.kind.name investor i.kind.name)

def defaultPatch? (s : Session) : Option Patch :=
  s.settings.criteria.defaultWeight.map fun w => { weight := some w }

def map (s : Session) (founder investor : String) : Except SessionError (Pairing × Session) :=
  match s.checkPair founder investor with
  | .error e => .error e
  | .ok () =>
    match s.criteria.add founder investor with
    | .error e => .error (.criteria e)
    | .ok criteria =>
      let criteria :=
        match s.defaultPatch? with
        | some patch => criteria.edit founder investor patch
        | none => criteria
      match criteria.get? founder with
      | some p => .ok (p, { s with criteria })
      | none => .error .pairingLost

def mapEvents (s : Session) (founder investor : String) : List Event :=
  match s.checkPair founder investor with
  | .error _ => []
  | .ok () =>
    s.criteria.addEvents founder investor ++
      match s.criteria.add founder investor, s.defaultPatch? with
      | .ok criteria, some _ => criteria.editEvents founder investor
      | _, _ => []

def edit (s : Session) (founder investor : String) (patch : Patch) : Bool × Session :=
  (s.criteria.holds founder investor,
    { s with criteria := s.criteria.edit founder investor patch })

def remove (s : Session) (founder : String) : Option Pairing × Session :=
  (s.criteria.get? founder, { s with criteria := s.criteria.remove founder })

end Session

end Counterpart
