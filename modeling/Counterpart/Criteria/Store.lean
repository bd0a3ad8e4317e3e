import Counterpart.Criteria.Pairing
import Counterpart.Log.Event

/-!
This module contains the criteria of a pipeline: an ordered list of pairings in which every founder
field occurs at most once. Investor fields may occur any number of times.
-/

namespace Counterpart

open Log

inductive CriteriaError where
  /-- The founder field is paired already; the pairing that exists is kept. -/
  | duplicateMapping (founder existing rejected : String)
  deriving DecidableEq, Repr

def CriteriaError.message : CriteriaError → String
  | .duplicateMapping founder existing rejected =>
    "Founder field '" ++ founder ++ "' is already mapped to '" ++ existing ++ "' (rejected '"
      ++ rejected ++ "')"

structure Criteria where
  pairings : List Pairing
  deriving DecidableEq

namespace Criteria

def empty : Criteria := ⟨[]⟩

instance : EmptyCollection Criteria := ⟨empty⟩

def get? (c : Criteria) (founder : String) : Option Pairing :=
  c.pairings.find? (·.founder == founder)

def mentions (c : Criteria) (key : String) : Bool := c.pairings.any (·.mentions key)

def required (c : Criteria) : List Pairing := c.pairings.filter Pairing.required

def size (c : Criteria) : Nat := c.pairings.length

def isEmpty (c : Criteria) : Bool := c.pairings.isEmpty

def addAll (c : Criteria) : List Pairing → Except CriteriaError Criteria
  | [] => .ok c
  | p :: ps =>
    match c.get? p.founder with
    | some existing => .error (.duplicateMapping p.founder existing.investor p.investor)
    | none => addAll ⟨c.pairings ++ [{ p with weight := p.weight.bind normalizeWeight }]⟩ ps

def ofPairings (ps : List Pairing) : Except CriteriaError Criteria := addAll empty ps

def add (c : Criteria) (founder investor : String) : Except CriteriaError Criteria :=
  match c.get? founder with
  | some existing => .error (.duplicateMapping founder existing.investor investor)
  | none => .ok ⟨c.pairings ++ [{ founder, investor }]⟩

def addEvents (c : Criteria) (founder investor : String) : List Event :=
  match c.get? founder with
  | some existing => [.alreadyMapped founder existing.investor investor]
  | none => [.mapped founder investor]

def holds (c : Criteria) (founder investor : String) : Bool :=
  c.pairings.any (·.pairs founder investor)

def modifyFirst (p : α → Bool) (f : α → α) : List α → List α
  | [] => []
  | a :: as => if p a then f a :: as else a :: modifyFirst p f as

def edit (c : Criteria) (founder investor : String) (patch : Patch) : Criteria :=
  ⟨modifyFirst (·.pairs founder investor) (·.apply patch) c.pairings⟩

def editEvents (c : Criteria) (founder investor : String) : List Event :=
  if c.holds founder investor then
    [.edited founder investor]
  else
    [.nothingToEdit founder investor]

def remove (c : Criteria) (founder : String) : Criteria :=
  ⟨c.pairings.eraseP (·.founder == founder)⟩

def removeEvents (c : Criteria) (founder : String) : List Event :=
  if (c.get? founder).isSome then [.unmapped founder] else []

end Criteria

end Counterpart
