import Counterpart.Json.Decode

/-!
This module contains typed reading of records. Members are read in the order in which they stand,
and the first that does not fit is reported; members that are missing are reported only after that.
Members that the record does not know count for nothing.
-/

namespace Counterpart.Json

/-- The members of a record that a decoder knows, in order of declaration, and how the record is
built from those that are given. Building reads the values again, which cannot fail once each has
been read in its place. -/
structure Record (α : Type) where
  members : List (String × Decoder Unit)
  build : (positional : Bool) → (String → Option Json) → Except DecodeError α

namespace Record

def pure (a : α) : Record α := ⟨[], fun _ _ => .ok a⟩

def seq (f : Record (α → β)) (x : Unit → Record α) : Record β where
  members := f.members ++ (x ()).members
  build positional given := do
    let f ← f.build positional given
    let a ← (x ()).build positional given
    return f a

instance : Applicative Record where
  pure := pure
  seq := seq

/-- A member of a record. What stands for it when it is absent may differ between a record given as
an object and one given as a list. -/
def member (name : String) (d : Decoder α) (ifNamed ifPositional : Option α) : Record α where
  members := [(name, (fun _ => ()) <$> d)]
  build positional given :=
    match given name with
    | some j => d.ofJson j
    | none =>
      match if positional then ifPositional else ifNamed with
      | some a => .ok a
      | none => .error (.missing name)

def required (name : String) (d : Decoder α) : Record α := member name d none none

def optional (name : String) (d : Decoder α) (absent : α) : Record α :=
  member name d (some absent) (some absent)

/-- A member that may be absent or `null` in an object, and must stand in a list. -/
def nullable (name : String) (d : Decoder α) : Record (Option α) :=
  member name d.nullable (some none) none

def check (r : Record α) : List (String × Json) → Except DecodeError Unit
  | [] => .ok ()
  | (name, j) :: rest =>
    match r.members.lookup name with
    | none => check r rest
    | some d => do
      d.ofJson j
      check r rest

def ofMembers (r : Record α) (given : List (String × Json)) : Except DecodeError α := do
  r.check given
  r.build false (fun name => given.lookup name)

def ofItems (r : Record α) (name : String) (surplus : DecodeError) (items : List Json)
    : Except DecodeError α := do
  let names := r.members.map Prod.fst
  let given := names.zip items
  r.check given
  match r.build true (fun name => given.lookup name) with
  | .ok a => if items.length ≤ names.length then return a else throw surplus
  | .error (.missing member) => throw (.tooShort (names.idxOf member) name names.length)
  | .error e => throw e

def ofJson (r : Record α) (name : String) : Json → Except DecodeError α
  | .object given => r.ofMembers given
  | .array items => r.ofItems name (.tooLong items.length) items
  | j => .error (.mismatch j (.record name))

def scanMember (r : Record α) (depth : Nat) (given : List (String × Json))
    : Scanner (List (String × Json)) := fun cs => do
  let (name, rest) ← Scanner.ofReader key cs
  match r.members.lookup name with
  -- Members that the record does not know are skipped.
  | none =>
    let ((), rest) ← Scanner.ofReader colon rest
    let ((), rest) ← Scanner.ofReader skip rest
    return (given, rest)
  | some d =>
    if (given.lookup name).isSome then
      throw (.malformed (.duplicate name))
    let ((), rest) ← Scanner.ofReader colon rest
    let (j, rest) ← d.scan depth rest
    return ((name, j) :: given, rest)

def scanItem (r : Record α) (depth : Nat) (items : List Json) : Scanner (List Json) := fun cs =>
  match r.members[items.length]? with
  | none => .error (.malformed .trailing)
  | some (_, d) => do
    let (j, rest) ← d.scan depth cs
    return (j :: items, rest)

def decoder (r : Record α) (name : String) : Decoder α where
  ofJson := r.ofJson name
  scan depth cs :=
    match skipBlanks cs, depth with
    | '[' :: _, 0 | '\x7b' :: _, 0 => .error .notJson
    | '[' :: rest, depth + 1 => do
      let (items, rest) ← Scanner.container (r.scanItem depth) ']' [] rest
      fitting (r.ofJson name) (.array items.reverse) rest
    | '\x7b' :: rest, depth + 1 => do
      let (given, rest) ← Scanner.container (r.scanMember depth) '\x7d' [] rest
      fitting (r.ofJson name) (.object given.reverse) rest
    | cs, _ => scanScalar (r.ofJson name) cs

end Record

end Counterpart.Json
