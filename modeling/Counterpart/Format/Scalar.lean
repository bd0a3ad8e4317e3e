import Counterpart.Json.Basic
import Counterpart.Text.Case

/-!
This module contains the readings of single values that forms and imports share: as a number, as a
truth value, as a text, or as nothing at all.
-/

namespace Counterpart

open Numeric

namespace Format

def parseNumber? (s : String) : Option (Finite double) :=
  (Binary.ofText? double (Text.trimChars s.toList)).bind Binary.finite?

def parseBool? (s : String) : Option Bool :=
  match Text.lowerAscii (Text.trim s) with
  | "true" | "1" | "yes" => some true
  | "false" | "0" | "no" => some false
  | _ => none

end Format

def Number.ofDouble (x : Finite double) : Number :=
  if h : (x.isIntegral = true ∧ x.magnitude < 9000000000000000 * one) ∧ IsWord x.truncate then
    .int x.truncate h.2
  else
    .float x

namespace Json

def storedNumber : Double → Json
  | .finite x => .number (.ofDouble x)
  | _ => .null

def asNumber? : Json → Option (Finite double)
  | .number n => some n.toDouble
  | .string s => Format.parseNumber? s
  | _ => none

def asBool? : Json → Option Bool
  | .bool b => some b
  | .string s => Format.parseBool? s
  | .number n =>
    let x := n.toDouble
    if x.magnitude = 0 then
      some false
    else if x.magnitude = one ∧ ¬x.negative then
      some true
    else
      none
  | _ => none

def isMissing : Json → Bool
  | .null => true
  | .string s => Text.isBlankText s
  | .array items => items.isEmpty
  | _ => false

def scalarText? : Json → Option String
  | .string s => some s
  | .number n => some n.write
  | .bool b => some (if b then "true" else "false")
  | _ => none

end Json

end Counterpart
