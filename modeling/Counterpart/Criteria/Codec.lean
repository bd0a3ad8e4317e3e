import Counterpart.Criteria.Store
import Counterpart.Json.Writer

/-!
This module contains the stored form of criteria, a JSON list of pairings.
-/

namespace Counterpart

open Json

namespace Criteria

inductive ReadError where
  | invalidText
  | malformed (e : DecodeError)
  | refused (e : CriteriaError)
  deriving DecidableEq

def ReadError.message : ReadError → String
  | .invalidText => "Invalid match criteria payload"
  | .malformed e => "Invalid match criteria payload: " ++ e.message
  | .refused e => e.message

def toJson (c : Criteria) : Json := .array (c.pairings.map Pairing.toJson)

def write (c : Criteria) : String := c.toJson.write

def ofRead (ps : List Pairing) : Except ReadError Criteria :=
  match ofPairings ps with
  | .error e => .error (.refused e)
  | .ok c => .ok c

def ofJson (j : Json) : Except ReadError Criteria :=
  match (Decoder.list Pairing.decoder).ofJson j with
  | .error e => .error (.malformed e)
  | .ok ps => ofRead ps

def ofText (text : String) : Except ReadError Criteria :=
  match (Decoder.list Pairing.decoder).ofText text with
  | .error .notJson => .error .invalidText
  | .error (.malformed e) => .error (.malformed e)
  | .ok ps => ofRead ps

end Criteria

end Counterpart
