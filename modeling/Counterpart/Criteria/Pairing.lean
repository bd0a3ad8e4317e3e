import Counterpart.Field.Codec

/-!
This module contains pairings of a founder field with an investor field, and partial updates of
them. Weights lie between zero and one.
-/

namespace Counterpart

open Numeric Json

inductive MatchKind where
  | identical
  | soft
  deriving DecidableEq, Repr

namespace MatchKind

def name : MatchKind → String
  | .identical => "exact"
  | .soft => "soft"

def decoder : Decoder MatchKind := Decoder.choice [("exact", .identical), ("soft", .soft)]

end MatchKind

def normalizeWeight : Double → Option Double
  | .finite x =>
    let zero : Finite double := .ofInt double 0
    let one : Finite double := .ofInt double 1
    if x.lt zero then some (.finite zero)
    else if one.lt x then some (.finite one)
    else some (.finite x)
  | _ => none

structure Pairing where
  founder : String
  investor : String
  kind : MatchKind := .identical
  weight : Option Double := none
  /-- Whether candidates that differ here are ruled out. -/
  required : Bool := false
  deriving DecidableEq

/-- An update of a pairing. Absent parts stay as they are. -/
structure Patch where
  kind : Option MatchKind := none
  weight : Option Double := none
  required : Option Bool := none
  deriving DecidableEq

namespace Pairing

def pairs (p : Pairing) (founder investor : String) : Bool :=
  p.founder == founder && p.investor == investor

def mentions (p : Pairing) (key : String) : Bool := p.founder == key || p.investor == key

def apply (p : Pairing) (patch : Patch) : Pairing where
  founder := p.founder
  investor := p.investor
  kind := patch.kind.getD p.kind
  weight :=
    match patch.weight with
    | some w => normalizeWeight w
    | none => p.weight
  required := patch.required.getD p.required

def toJson (p : Pairing) : Json :=
  .object
    ([("founderField", .string p.founder),
      ("investorField", .string p.investor),
      ("matchType", .string p.kind.name)]
      -- A weight that is not finite is written as `null`.
      ++ optionalMember "weight" (p.weight.map ofDouble)
      ++ [("required", .bool p.required)])

def record : Record Pairing :=
  Pairing.mk
    <$> .required "founderField" Decoder.string
    <*> .required "investorField" Decoder.string
    <*> .optional "matchType" MatchKind.decoder .identical
    <*> .optional "weight" (.nullable .binary) none
    <*> .optional "required" Decoder.boolean false

def decoder : Decoder Pairing := record.decoder "struct MatchField"

end Pairing

namespace Patch

def isEmpty (p : Patch) : Bool := p.kind.isNone && p.weight.isNone && p.required.isNone

def toJson (p : Patch) : Json :=
  .object
    (optionalMember "matchType" (p.kind.map fun k => .string k.name)
      ++ optionalMember "weight" (p.weight.map ofDouble)
      ++ optionalMember "required" (p.required.map .bool))

def record : Record Patch :=
  Patch.mk
    <$> .optional "matchType" (.nullable MatchKind.decoder) none
    <*> .optional "weight" (.nullable .binary) none
    <*> .optional "required" (.nullable Decoder.boolean) none

def decoder : Decoder Patch := record.decoder "struct MatchFieldPatch"

end Patch

end Counterpart
