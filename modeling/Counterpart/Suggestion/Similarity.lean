import Counterpart.Numeric.Binary
import Counterpart.Text.Case

/-!
This module contains the similarity by which headers are compared with keys and labels: the
Jaro–Winkler measure over the characters of normalised texts.
-/

namespace Counterpart

open Numeric

def Text.isSeparator (c : Char) : Bool :=
  c == '_' || c == '-' || c == '.' || c == '/' || c == '\\'

def Text.normalizeChars (cs : List Char) : List Char :=
  let spaced := (lowerChars (trimChars cs)).map fun c => if isSeparator c then ' ' else c
  List.intercalate [' '] (wordsChars spaced)

def Text.normalize (s : String) : String := .ofList (normalizeChars s.toList)

namespace Similarity

/-- Takes the first character equal to `c` that is still free. Characters of the text are given
with their places; only places from `low` to `high` count. -/
def takeMatch (c : Char) (low high : Nat) : List (Char × Nat) → Option (Nat × List (Char × Nat))
  | [] => none
  | (d, i) :: free =>
    if c = d ∧ low ≤ i ∧ i ≤ high then
      some (i, free)
    else
      (takeMatch c low high free).map fun (j, free) => (j, (d, i) :: free)

def matched (window : Nat) (free : List (Char × Nat))
    : (place : Nat) → List Char → List (Char × Nat)
  | _, [] => []
  | place, c :: cs =>
    match takeMatch c (place - window) (place + window) free with
    | some (i, free) => (c, i) :: matched window free (place + 1) cs
    | none => matched window free (place + 1) cs

def charsAt (places : List Nat) (s : List Char) : List Char :=
  (s.zipIdx.filter fun (_, i) => places.contains i).map Prod.fst

def ratio (num den : Nat) : Finite double := .nearest double false (num * one) den

def jaro (s t : List Char) : Finite double :=
  if s.isEmpty ∧ t.isEmpty then
    .ofInt double 1
  else if s.isEmpty ∨ t.isEmpty then
    .zero
  else if s.length = 1 ∧ t.length = 1 then
    if s = t then .ofInt double 1 else .zero
  else
    let window := max s.length t.length / 2 - 1
    let pairs := matched window s.zipIdx 0 t
    let count := pairs.length
    if count = 0 then
      .zero
    else
      let inOrder := charsAt (pairs.map Prod.snd) s
      let crossed := ((inOrder.zip (pairs.map Prod.fst)).filter fun (a, b) => a != b).length / 2
      let sum := ((ratio count s.length).add (ratio count t.length)).add
        (ratio (count - crossed) count)
      sum.div (.ofInt double 3)

def commonStart (s t : List Char) : Nat :=
  ((s.zip t).takeWhile fun (a, b) => a == b).length.min 4

def jaroWinkler (s t : List Char) : Finite double :=
  let similarity := jaro s t
  -- Texts that are similar already gain by a common start.
  if (ratio 7 10).lt similarity then
    let gain := ((Finite.ofInt double (commonStart s t)).mul (ratio 1 10)).mul
      ((Finite.ofInt double 1).sub similarity)
    similarity.add gain
  else
    similarity

end Similarity

end Counterpart
