import Counterpart.Format.Scalar

/-!
This module contains the splitting of a cell that holds several choices into its tokens.
-/

namespace Counterpart

namespace Text

def consHead (c : Char) : List (List Char) → List (List Char)
  | [] => [[c]]
  | piece :: pieces => (c :: piece) :: pieces

def cutAtPair (a b : Char) : List Char → List (List Char)
  | [] => [[]]
  | [c] => [[c]]
  | c :: d :: cs =>
    if c = a ∧ d = b then
      [] :: cutAtPair a b cs
    else
      consHead c (cutAtPair a b (d :: cs))

def hasPair (a b : Char) : List Char → Bool
  | c :: d :: cs => (c == a && d == b) || hasPair a b (d :: cs)
  | _ => false

end Text

namespace Import

open Text

def tokensChars (cs : List Char) : List (List Char) :=
  -- Where there is a blank with a comma, these two are cut at together.
  let parts := if hasPair ' ' ',' cs then cutAtPair ' ' ',' cs else cutAt (· == ',') cs
  ((parts.flatMap (cutAt (· == ','))).map trimChars).filter (!·.isEmpty)

def tokens (s : String) : List String := (tokensChars s.toList).map .ofList

def cellTokens? : Json → Option (List String)
  | .array items => some (((items.filterMap Json.scalarText?).map trim).filter (!·.isEmpty))
  | j => j.scalarText?.map tokens

end Import

end Counterpart
