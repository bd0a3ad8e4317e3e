import Counterpart.Field.Schema
import Counterpart.Field.Side
import Counterpart.Json.Record
import Counterpart.Json.Writer

/-!
This module contains the stored form of fields and schemas: how they are written as JSON and read
back. Members with nothing to say are left out when written and may be left out when read. As a
value the stored form has its members sorted; its text has them in order of declaration.
-/

namespace Counterpart

open Numeric Json

def Json.ofDouble : Double → Json
  | .finite x => .number (.float x)
  -- JSON has no numbers but the finite ones.
  | _ => .null

def Json.optionalMember (name : String) (value : Option Json) : List (String × Json) :=
  match value with
  | some j => [(name, j)]
  | none => []

def Json.Decoder.binary : Decoder Double := .finite <$> Decoder.double

namespace Side

def variants : List (String × Side) := [("founder", .founder), ("investor", .investor)]

def decoder : Decoder Side := Decoder.choice variants

end Side

namespace FieldKind

def toJson (k : FieldKind) : Json := .string k.name

def decoder : Decoder FieldKind := ofName <$> Decoder.string

end FieldKind

namespace Choice

def toJson (c : Choice) : Json :=
  .object [("label", .string c.label), ("value", .string c.value)]

def record : Record Choice :=
  Choice.mk <$> .optional "label" Decoder.string "" <*> .required "value" Decoder.string

def decoder : Decoder Choice := record.decoder "struct FieldOption"

end Choice

namespace Bounds

def toJson (b : Bounds) : Json :=
  .object
    (optionalMember "max" (b.max.map ofDouble)
      ++ optionalMember "min" (b.min.map ofDouble)
      ++ optionalMember "step" (b.step.map ofDouble))

def declared (b : Bounds) : Json :=
  .object
    (optionalMember "min" (b.min.map ofDouble)
      ++ optionalMember "max" (b.max.map ofDouble)
      ++ optionalMember "step" (b.step.map ofDouble))

def record : Record Bounds :=
  Bounds.mk
    <$> .optional "min" (.nullable .binary) none
    <*> .optional "max" (.nullable .binary) none
    <*> .optional "step" (.nullable .binary) none

def decoder : Decoder Bounds := record.decoder "struct NumericBounds"

end Bounds

namespace Field

def toJson (f : Field) : Json :=
  .object
    ([("isPersonalityDerived", .bool f.personalityDerived),
      ("key", .string f.key),
      ("label", .string f.label)]
      ++ optionalMember "numericBounds" (f.bounds.map Bounds.toJson)
      ++ (if f.choices.isEmpty then [] else [("options", .array (f.choices.map Choice.toJson))])
      ++ [("required", .bool f.required), ("type", f.kind.toJson)])

def declared (f : Field) : Json :=
  .object
    ([("key", .string f.key),
      ("label", .string f.label),
      ("type", f.kind.toJson),
      ("required", .bool f.required)]
      ++ (if f.choices.isEmpty then [] else [("options", .array (f.choices.map Choice.toJson))])
      ++ optionalMember "numericBounds" (f.bounds.map Bounds.declared)
      ++ [("isPersonalityDerived", .bool f.personalityDerived)])

def record : Record Field :=
  Field.mk
    <$> .required "key" Decoder.string
    <*> .required "label" Decoder.string
    <*> .required "type" FieldKind.decoder
    <*> .optional "required" Decoder.boolean false
    <*> .optional "options" (.list Choice.decoder) []
    <*> .optional "numericBounds" (.nullable Bounds.decoder) none
    <*> .optional "isPersonalityDerived" Decoder.boolean false

def decoder : Decoder Field := record.decoder "struct FieldDefinition"

end Field

namespace Schema

inductive ReadError where
  | invalidText
  | malformed (e : DecodeError)
  | faulty (e : SchemaError)
  deriving DecidableEq

def ReadError.message : ReadError → String
  | .invalidText => "Invalid schema"
  | .malformed e => e.message
  | .faulty e => e.message

def toJson (s : Schema) : Json := .array (s.fields.map Field.toJson)

def write (s : Schema) : String := (Json.array (s.fields.map Field.declared)).write

def ofJson (j : Json) : Except ReadError Schema :=
  match (Decoder.list Field.decoder).ofJson j with
  | .error e => .error (.malformed e)
  | .ok fields =>
    match ofFields? fields with
    | .error e => .error (.faulty e)
    | .ok s => .ok s

def ofText (text : String) : Except ReadError Schema :=
  match (Decoder.list Field.decoder).ofText text with
  | .error .notJson => .error .invalidText
  | .error (.malformed e) => .error (.malformed e)
  | .ok fields =>
    match ofFields? fields with
    -- Fields at fault are reported of JSON only.
    | .error e => if (ofText? text).isSome then .error (.faulty e) else .error .invalidText
    | .ok s => .ok s

end Schema

end Counterpart
