import Counterpart.Json.DecodeError
import Counterpart.Json.Skip

/-!
This module contains typed reading of JSON: decoders for texts, numbers, lists, maps and choices. A
decoder reads values, and it reads texts. What it has no use for in a text is skipped, so that a
text can be read of which some part denotes no value.
-/

namespace Counterpart.Json

open Numeric

inductive TextError where
  | notJson
  | malformed (e : DecodeError)
  deriving DecidableEq

abbrev Scanner (σ : Type) := List Char → Except TextError (σ × List Char)

namespace Scanner

def ofReader (r : Text.Reader σ) : Scanner σ := fun cs =>
  match r cs with
  | some found => .ok found
  | none => .error .notJson

/-- Reads the parts of a container up to its closing mark, with commas between them. There are at
most `fuel` parts, each of which changes what was read so far. -/
def parts (part : σ → Scanner σ) (close : Char) : (fuel : Nat) → σ → Scanner σ
  | 0, _, _ => .error .notJson
  | fuel + 1, s, cs =>
    match part s cs with
    | .error e => .error e
    | .ok (s, rest) =>
      match skipBlanks rest with
      | [] => .error .notJson
      | c :: rest =>
        if c = close then .ok (s, rest)
        else if c = ',' then parts part close fuel s rest
        else .error .notJson

def container (part : σ → Scanner σ) (close : Char) (s : σ) : Scanner σ := fun cs =>
  match skipBlanks cs with
  | [] => .error .notJson
  | c :: rest => if c = close then .ok (s, rest) else parts part close cs.length s (c :: rest)

end Scanner

structure Decoder (α : Type) where
  ofJson : Json → Except DecodeError α
  /-- Reads the start of a text as a value that `ofJson` can read. Containers are nested at most
  `depth` deep. -/
  scan : (depth : Nat) → Scanner Json

instance : Functor Decoder where
  map f d := { d with ofJson := fun j => f <$> d.ofJson j }

def fitting (ofJson : Json → Except DecodeError α) (j : Json) (rest : List Char)
    : Except TextError (Json × List Char) :=
  match ofJson j with
  | .ok _ => .ok (j, rest)
  | .error e => .error (.malformed e)

def scanScalar (ofJson : Json → Except DecodeError α) : Scanner Json := fun cs =>
  match skipBlanks cs with
  -- Of arrays and objects only the kind is looked at.
  | '[' :: rest => fitting ofJson (.array []) rest
  | '\x7b' :: rest => fitting ofJson (.object []) rest
  | cs =>
    match scalar cs with
    | some (j, rest) => fitting ofJson j rest
    | none => .error .notJson

namespace Decoder

def ofText (d : Decoder α) (text : String) : Except TextError α :=
  match d.scan maxDepth text.toList with
  -- JSON is refused for its first fault, any other text for not being JSON.
  | .error e => if (ofText? text).isSome then .error e else .error .notJson
  | .ok (j, rest) =>
    if atEnd rest then (d.ofJson j).mapError .malformed else .error .notJson

def ofScalar (ofJson : Json → Except DecodeError α) : Decoder α where
  ofJson := ofJson
  scan _ := scanScalar ofJson

/-- A type of which a text is read as a value before it is looked at. -/
def ofValue (ofJson : Json → Except DecodeError α) : Decoder α where
  ofJson := ofJson
  scan depth cs :=
    match value depth cs with
    | some (j, rest) => fitting ofJson j rest
    | none => .error .notJson

def any : Decoder Json := ofValue .ok

def string : Decoder String := ofScalar fun
  | .string s => .ok s
  | j => .error (.mismatch j .string)

def boolean : Decoder Bool := ofScalar fun
  | .bool b => .ok b
  | j => .error (.mismatch j .boolean)

def double : Decoder (Finite double) := ofScalar fun
  | .number n => .ok n.toDouble
  | j => .error (.mismatch j .double)

def natural : Decoder Nat := ofScalar fun
  | .number (.int n _) => if n < 0 then .error (.negative n .natural) else .ok n.toNat
  | j => .error (.mismatch j .natural)

def path : Decoder String := ofScalar fun
  | .string s => .ok s
  | j => .error (.mismatch j .path)

def nullable (d : Decoder α) : Decoder (Option α) where
  ofJson
    | .null => .ok none
    | j => some <$> d.ofJson j
  scan depth cs :=
    match skipBlanks cs with
    | 'n' :: rest => Scanner.ofReader scalar ('n' :: rest)
    | cs => d.scan depth cs

def list (d : Decoder α) : Decoder (List α) where
  ofJson := ofJson
  scan depth cs :=
    match skipBlanks cs, depth with
    | '[' :: _, 0 => .error .notJson
    | '[' :: rest, depth + 1 => do
      let (items, rest) ← Scanner.container (item depth) ']' [] rest
      return (.array items.reverse, rest)
    | cs, _ => scanScalar ofJson cs
where
  ofJson : Json → Except DecodeError (List α)
    | .array items => items.mapM d.ofJson
    | j => .error (.mismatch j .sequence)
  item (depth : Nat) (items : List Json) : Scanner (List Json) := fun cs => do
    let (j, rest) ← d.scan depth cs
    return (j :: items, rest)

def map (d : Decoder α) : Decoder (KeyMap α) where
  ofJson := ofJson
  scan depth cs :=
    match skipBlanks cs, depth with
    | '\x7b' :: _, 0 => .error .notJson
    | '\x7b' :: rest, depth + 1 => do
      let (members, rest) ← Scanner.container (member depth) '\x7d' [] rest
      return (.object members.reverse, rest)
    | cs, _ => scanScalar ofJson cs
where
  ofJson : Json → Except DecodeError (KeyMap α)
    | .object members => do
      let entries ← members.mapM fun (key, j) => do return (key, ← d.ofJson j)
      return .ofList entries
    | j => .error (.mismatch j .map)
  member (depth : Nat) (members : List (String × Json)) : Scanner (List (String × Json)) :=
    fun cs => do
      let (name, rest) ← Scanner.ofReader key cs
      let ((), rest) ← Scanner.ofReader colon rest
      let (j, rest) ← d.scan depth rest
      return ((name, j) :: members, rest)

def variant (variants : List (String × α)) (name : String) : Except DecodeError α :=
  match variants.lookup name with
  | some a => .ok a
  | none => .error (.unknownVariant name (variants.map Prod.fst))

/-- One of finitely many names: the name itself, or an object whose one member has the name and no
value. -/
def choice (variants : List (String × α)) : Decoder α where
  ofJson
    | .string name => variant variants name
    | .object [(name, j)] => do
      let a ← variant variants name
      nothing j
      return a
    | .object _ => .error .notSingle
    | j => .error (.mismatch j .choice)
  scan depth cs :=
    match skipBlanks cs, depth with
    | '"' :: _, _ => scanScalar name cs
    | '\x7b' :: _, 0 => .error .notJson
    | '\x7b' :: rest, _ + 1 => do
      let (member, rest) ← Scanner.container single '\x7d' none rest
      match member with
      | some j => return (j, rest)
      | none => throw (.malformed .noValue)
    | _, _ => .error (.malformed .noValue)
where
  single (before : Option Json) : Scanner (Option Json) := fun cs => do
    if before.isSome then
      throw (.malformed .noValue)
    let (j, rest) ← scanScalar name cs
    let ((), rest) ← Scanner.ofReader colon rest
    let (_, rest) ← scanScalar nothing rest
    return (some j, rest)
  name : Json → Except DecodeError Unit
    | .string name => (fun _ => ()) <$> variant variants name
    | j => .error (.mismatch j .tag)
  nothing : Json → Except DecodeError Unit
    | .null => .ok ()
    | j => .error (.mismatch j .unit)

end Decoder

end Counterpart.Json
