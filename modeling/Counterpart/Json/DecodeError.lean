import Counterpart.Json.Basic
import Counterpart.Text.Quoted

/-!
This module contains the reasons for which a JSON value does not fit a type, and their wording.
-/

namespace Counterpart.Json

inductive Shape where
  | string
  | boolean
  | double
  | natural
  | path
  | sequence
  | map
  | unit
  | choice
  | tag
  | record (name : String)
  | tagged (name : String)
  deriving DecidableEq, Repr

def Shape.describe : Shape → String
  | .string => "a string"
  | .boolean => "a boolean"
  | .double => "f64"
  | .natural => "usize"
  | .path => "path string"
  | .sequence => "a sequence"
  | .map => "a map"
  | .unit => "unit"
  | .choice => "string or map"
  | .tag => "variant identifier"
  | .record name => name
  | .tagged name => "internally tagged enum " ++ name

inductive DecodeError where
  | mismatch (found : Json) (expected : Shape)
  | negative (found : Int) (expected : Shape)
  | missing (name : String)
  | duplicate (name : String)
  | unknownVariant (name : String) (allowed : List String)
  /-- A record given as a list lacks the member at the position `length`. -/
  | tooShort (length : Nat) (record : String) (size : Nat)
  | tooLong (length : Nat)
  /-- A list inside a tagged value has more than the `size` elements of its variant. -/
  | surplus (length size : Nat)
  /-- A choice given as an object has no member or several. -/
  | notSingle
  /-- A list in a text goes on where its record has ended. -/
  | trailing
  /-- A text has something else where a choice is expected. -/
  | noValue
  deriving DecidableEq

def describe : Json → String
  | .null => "null"
  | .bool b => "boolean `" ++ (if b then "true" else "false") ++ "`"
  | .number (.int n h) => "integer `" ++ (Number.int n h).write ++ "`"
  | .number (.float x) => "floating point `" ++ (Number.float x).write ++ "`"
  | .string s => "string " ++ Text.quote s
  | .array _ => "sequence"
  | .object _ => "map"

def alternatives : List String → String
  | [] => "there are no variants"
  | [a] => "expected `" ++ a ++ "`"
  | [a, b] => "expected `" ++ a ++ "` or `" ++ b ++ "`"
  | names => "expected one of " ++ ", ".intercalate (names.map fun n => "`" ++ n ++ "`")

def DecodeError.message : DecodeError → String
  | .mismatch found expected =>
    "invalid type: " ++ found.describe ++ ", expected " ++ expected.describe
  | .negative found expected =>
    "invalid value: integer `" ++ toString found ++ "`, expected " ++ expected.describe
  | .missing name => "missing field `" ++ name ++ "`"
  | .duplicate name => "duplicate field `" ++ name ++ "`"
  | .unknownVariant name allowed =>
    "unknown variant `" ++ name ++ "`, " ++ alternatives allowed
  | .tooShort length record size =>
    "invalid length " ++ toString length ++ ", expected " ++ record ++ " with " ++ toString size
      ++ (if size = 1 then " element" else " elements")
  | .tooLong length =>
    "invalid length " ++ toString length ++ ", expected fewer elements in array"
  | .surplus length size =>
    "invalid length " ++ toString length ++ ", expected " ++ toString size
      ++ (if size = 1 then " element in sequence" else " elements in sequence")
  | .notSingle => "invalid value: map, expected map with a single key"
  | .trailing => "trailing characters"
  | .noValue => "expected value"

end Counterpart.Json
