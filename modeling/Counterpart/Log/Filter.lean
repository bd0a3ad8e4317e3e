import Counterpart.Log.Directive

/-!
This module contains filters of events, which are lists of directives: of those that speak of an
event the most specific one decides, of two that are equally specific the later one.
-/

namespace Counterpart.Log

structure Filter where
  directives : List Directive
  deriving DecidableEq, Repr

namespace Filter

def ofText? (s : String) : Option Filter := do
  let parts := (Text.cutAt (· == ',') s.toList).filter (!·.isEmpty)
  -- A text without directives lets errors pass.
  if parts.isEmpty then
    return ⟨[{ threshold := some .error }]⟩
  let directives ← parts.mapM Directive.ofChars?
  return ⟨directives⟩

def parts : List String :=
  ["pairing_core", "pairing_ingest", "pairing_map", "pairing_model", "pairing_validate"]

def ofLevel (level : Level) : Filter :=
  ⟨{ threshold := some .warn }
    :: parts.map fun part => { target := some part, threshold := some level }⟩

def deciding? (f : Filter) (e : Event) : Option Directive :=
  (f.directives.filter (·.concerns e)).foldl
    (fun best d =>
      match best with
      | some b => if d.outweighs b then some d else some b
      | none => some d)
    none

def passes (f : Filter) (e : Event) : Bool :=
  (f.deciding? e).any fun d => d.threshold.any (e.level.rank ≤ ·.rank)

end Filter

end Counterpart.Log
