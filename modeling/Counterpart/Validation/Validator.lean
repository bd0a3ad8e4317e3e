import Counterpart.Validation.Rule

/-!
This module contains validators: a list of fields is compiled once, and then applied to any number
of candidates. Every field that fails is reported. A candidate that is no object counts as an empty
one, and members that belong to no field are dropped.
-/

namespace Counterpart

structure FieldRule where
  key : String
  required : Bool
  rule : Rule
  deriving DecidableEq

namespace FieldRule

def ofField? (f : Field) : Option FieldRule :=
  (Rule.ofField? f).map fun rule => { key := f.key, required := f.required, rule }

def check (r : FieldRule) (mode : Mode) (j : Json) : Except Issue (Option Json) :=
  if j.isMissing ∧ r.required then
    .error .required
  else if j = .null then
    .ok none
  else if j.isMissing ∧ r.rule.acceptsEmpty j then
    .ok (some j)
  else
    (r.rule.check mode j).map some

end FieldRule

structure Validator where
  rules : List FieldRule
  mode : Mode
  /-- Keys of the fields of unknown type, which accept any value. -/
  unhandled : List String
  deriving DecidableEq

namespace Validator

open Log

def compile (fields : List Field) (mode : Mode) : Validator where
  rules := fields.filterMap FieldRule.ofField?
  mode := mode
  unhandled := (fields.filter (!·.kind.isKnown)).map Field.key

def compileEvents (fields : List Field) (mode : Mode) : List Event :=
  fields.filterMap (fun f =>
      if f.kind.isKnown then none else some (.ruleMissing f.key f.kind.name))
    ++ [.compiled (compile fields mode).rules.length mode]

def size (v : Validator) : Nat := v.rules.length

def verdicts (v : Validator) (candidate : Json) : List (String × Except Issue (Option Json)) :=
  v.rules.map fun r => (r.key, r.check v.mode ((candidate.member? r.key).getD .null))

def issues (v : Validator) (candidate : Json) : Issues :=
  .ofList <| (v.verdicts candidate).filterMap fun (key, verdict) =>
    match verdict with
    | .error i => some (key, i)
    | .ok _ => none

def stored (v : Validator) (candidate : Json) : KeyMap Json :=
  .ofList <| (v.verdicts candidate).filterMap fun (key, verdict) =>
    match verdict with
    | .ok (some j) => some (key, j)
    | _ => none

def validate (v : Validator) (candidate : Json) : Except Issues (KeyMap Json) :=
  let issues := v.issues candidate
  if issues.isEmpty then .ok (v.stored candidate) else .error issues

def validateEvents (v : Validator) (candidate : Json) : List Event :=
  match v.validate candidate with
  | .ok _ => []
  | .error issues => [.candidateFailed issues.size]

end Validator

end Counterpart
