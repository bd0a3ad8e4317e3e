import Counterpart.Text.Blank
import Counterpart.Text.CaseTable

/-!
This module contains lower-casing of text by the full Unicode rules, and the folded form by which
names and options are compared.
-/

namespace Counterpart.Text

def inRanges (ranges : List (Nat × Nat)) (c : Char) : Bool :=
  ranges.any fun (first, last) => first ≤ c.toNat && c.toNat ≤ last

def isCased (c : Char) : Bool := inRanges casedRanges c

def isCaseIgnorable (c : Char) : Bool := inRanges caseIgnorableRanges c

def CaseRun.covers (r : CaseRun) (n : Nat) : Bool :=
  r.first ≤ n && n ≤ r.last && (n - r.first) % r.step == 0

/-- The lower-case form of a character, without regard to its place in a word. -/
def lowerChar (c : Char) : List Char :=
  if c.toNat = 0x130 then
    ['i', Char.ofNat 0x307]
  else
    match caseRuns.find? (·.covers c.toNat) with
    | some run => [Char.ofNat (c.toNat + run.shift).toNat]
    | none => [c]

def meetsCased (cs : List Char) : Bool :=
  match cs.dropWhile isCaseIgnorable with
  | [] => false
  | c :: _ => isCased c

/-- Lowers the rest of a text. `before` is what was passed of it, last character first. -/
def lowerChars.go (before : List Char) : List Char → List Char
  | [] => []
  | c :: cs =>
    let lowered :=
      -- A capital sigma that ends a word takes its final form.
      if c.toNat = 0x3A3 then
        if meetsCased before && !meetsCased cs then [Char.ofNat 0x3C2] else [Char.ofNat 0x3C3]
      else
        lowerChar c
    lowered ++ go (c :: before) cs

def lowerChars (cs : List Char) : List Char := lowerChars.go [] cs

def lower (s : String) : String := .ofList (lowerChars s.toList)

def lowerAscii (s : String) : String := .ofList (s.toList.map Char.toLower)

def fold (s : String) : String := lower (trim s)

end Counterpart.Text
