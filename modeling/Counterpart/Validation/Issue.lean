import Counterpart.Field.Codec
import Counterpart.Json.Writer

/-!
This module contains the reasons for which a field's value is rejected, and the collection of them
for one candidate, at most one for each field.
-/

namespace Counterpart

open Numeric Json

inductive Issue where
  /-- A required field has no value, or a blank or empty one. -/
  | required
  | expectedText
  | expectedNumber
  | expectedBoolean
  | expectedList
  | invalidEmail
  | invalidUrl
  | invalidPhone
  | outOfRange (value : Double) (min max : Option Double)
  | notAChoice (value : String)
  | notChoices (values : List String)
  deriving DecidableEq

namespace Issue

def code : Issue → String
  | .required => "required"
  | .expectedText => "expected_string"
  | .expectedNumber => "expected_number"
  | .expectedBoolean => "expected_boolean"
  | .expectedList => "expected_array"
  | .invalidEmail => "invalid_email"
  | .invalidUrl => "invalid_url"
  | .invalidPhone => "invalid_phone"
  | .outOfRange .. => "out_of_range"
  | .notAChoice _ => "not_an_option"
  | .notChoices _ => "not_options"

def message : Issue → String
  | .required => "This field is required"
  | .expectedText => "Expected text"
  | .expectedNumber => "Expected a number"
  | .expectedBoolean => "Expected true or false"
  | .expectedList => "Expected a list of choices"
  | .invalidEmail => "Invalid email address"
  | .invalidUrl => "Invalid URL"
  | .invalidPhone => "Invalid phone number"
  | .outOfRange value (some min) (some max) =>
    value.plainText ++ " is outside the range " ++ min.plainText ++ " to " ++ max.plainText
  | .outOfRange value (some min) none =>
    value.plainText ++ " is below the minimum " ++ min.plainText
  | .outOfRange value none (some max) =>
    value.plainText ++ " is above the maximum " ++ max.plainText
  | .outOfRange value none none => value.plainText ++ " is out of range"
  | .notAChoice value => "'" ++ value ++ "' is not a valid choice"
  | .notChoices values => "Invalid choices: " ++ ", ".intercalate values

def boundJson (x : Option Double) : Json := (x.map ofDouble).getD .null

def toJson (i : Issue) : Json :=
  let kind := ("kind", Json.string i.code)
  match i with
  | .outOfRange value min max =>
    .object [kind, ("max", boundJson max), ("min", boundJson min), ("value", ofDouble value)]
  | .notAChoice value => .object [kind, ("value", .string value)]
  | .notChoices values => .object [kind, ("values", strings values)]
  | _ => .object [kind]

def declared (i : Issue) : Json :=
  let kind := ("kind", Json.string i.code)
  match i with
  | .outOfRange value min max =>
    .object [kind, ("value", ofDouble value), ("min", boundJson min), ("max", boundJson max)]
  | i => i.toJson

def codes : List String := [
  "required", "expected_string", "expected_number", "expected_boolean", "expected_array",
  "invalid_email", "invalid_url", "invalid_phone", "out_of_range", "not_an_option", "not_options"]

def records : List (String × String × Record Issue) := [
  ("out_of_range", "struct variant FieldIssue::OutOfRange",
    Issue.outOfRange
      <$> .required "value" Decoder.binary
      <*> .nullable "min" Decoder.binary
      <*> .nullable "max" Decoder.binary),
  ("not_an_option", "struct variant FieldIssue::NotAnOption",
    Issue.notAChoice <$> .required "value" Decoder.string),
  ("not_options", "struct variant FieldIssue::NotOptions",
    Issue.notChoices <$> .required "values" (.list Decoder.string))]

def plain? : String → Option Issue
  | "required" => some .required
  | "expected_string" => some .expectedText
  | "expected_number" => some .expectedNumber
  | "expected_boolean" => some .expectedBoolean
  | "expected_array" => some .expectedList
  | "invalid_email" => some .invalidEmail
  | "invalid_url" => some .invalidUrl
  | "invalid_phone" => some .invalidPhone
  | _ => none

/-- `bare` says whether anything may stand beside an issue without data. -/
def ofKind (kind : Json) (bare : Except DecodeError Unit)
    (read : String → Record Issue → Except DecodeError Issue) : Except DecodeError Issue :=
  match kind with
  | .string name =>
    match plain? name, records.lookup name with
    | some i, _ => bare.map fun _ => i
    | none, some (record, r) => read record r
    | none, none => .error (.unknownVariant name codes)
  | j => .error (.mismatch j .tag)

def ofJson : Json → Except DecodeError Issue
  | .object members =>
    match members.lookup "kind" with
    | none => .error (.missing "kind")
    | some kind =>
      ofKind kind (.ok ()) fun _ r => r.ofMembers (members.filter (·.1 != "kind"))
  | .array items =>
    match items with
    | [] => .error (.missing "kind")
    | kind :: items =>
      let bare := if items.isEmpty then .ok () else .error (.surplus items.length 0)
      ofKind kind bare fun record r =>
        r.ofItems record (.surplus items.length r.members.length) items
  | j => .error (.mismatch j (.tagged "FieldIssue"))

def decoder : Decoder Issue := .ofValue ofJson

end Issue

abbrev Issues := KeyMap Issue

namespace Issues

def messages (is : Issues) : KeyMap String := is.map Issue.message

def codes (is : Issues) : KeyMap String := is.map Issue.code

def summary (is : Issues) : String :=
  toString is.size ++ " invalid field(s): "
    ++ "; ".intercalate (is.entries.map fun (key, i) => key ++ ": " ++ i.message)

def toJson (is : Issues) : Json := .ofMap (is.map Issue.toJson)

def write (is : Issues) : String := (Json.ofMap (is.map Issue.declared)).write

def decoder : Decoder Issues := Decoder.map Issue.decoder

end Issues

end Counterpart
