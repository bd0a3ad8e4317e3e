import Counterpart.Field.Basic
import Counterpart.Numeric.Layout

/-!
This module contains form schemas: lists of fields that were checked for empty and repeated keys,
repeated choice values and inverted bounds. `Schema.ofFields?` blames the first field at which a
fault shows.
-/

namespace Counterpart

open Numeric

inductive SchemaError where
  | emptyKey (label : String)
  | duplicateKey (key : String)
  | duplicateChoice (key value : String)
  | invertedBounds (key : String) (min max : Double)
  deriving DecidableEq

def SchemaError.message : SchemaError → String
  | .emptyKey label => "field key must not be empty (label: '" ++ label ++ "')"
  | .duplicateKey key => "duplicate field key '" ++ key ++ "'"
  | .duplicateChoice key value =>
    "field '" ++ key ++ "' has duplicate option value '" ++ value ++ "'"
  | .invertedBounds key min max =>
    "field '" ++ key ++ "' has numeric bounds with min " ++ min.plainText ++ " greater than max "
      ++ max.plainText

/-- The fault of a field that stands after fields with the given keys. -/
def Field.fault? (seen : List String) (f : Field) : Option SchemaError :=
  if Text.isBlankText f.key then
    some (.emptyKey f.label)
  else if f.key ∈ seen then
    some (.duplicateKey f.key)
  else
    match f.choices.duplicateValue? with
    | some value => some (.duplicateChoice f.key value)
    | none =>
      (f.bounds.bind Bounds.inverted?).map fun (min, max) => .invertedBounds f.key min max

def firstFault? (seen : List String) : List Field → Option SchemaError
  | [] => none
  | f :: fs =>
    match f.fault? seen with
    | some e => some e
    | none => firstFault? (f.key :: seen) fs

structure Schema where
  fields : List Field
  faultless : firstFault? [] fields = none
  deriving DecidableEq

namespace Schema

def empty : Schema := ⟨[], rfl⟩

def ofFields? (fields : List Field) : Except SchemaError Schema :=
  match h : firstFault? [] fields with
  | some e => .error e
  | none => .ok ⟨fields, h⟩

def get? (s : Schema) (key : String) : Option Field := s.fields.find? (·.key == key)

def contains (s : Schema) (key : String) : Bool := (s.get? key).isSome

def keys (s : Schema) : List String := s.fields.map Field.key

def dataFields (s : Schema) : List Field := s.fields.filter Field.carriesData

def size (s : Schema) : Nat := s.fields.length

def isEmpty (s : Schema) : Bool := s.fields.isEmpty

end Schema

end Counterpart
