import Counterpart.Toml.Quoted
import Counterpart.Toml.Scalar

/-!
This module contains the reader of settings documents: statements line by line, each a header, a
pair of a key and a value, or nothing, with an optional comment.
-/

namespace Counterpart.Toml

open Text

/-- How deep lists and inline tables may be nested, and how many parts a key may have. -/
def maxDepth : Nat := 80

def skipSpaces (cs : List Char) : List Char := cs.dropWhile isSpace

def skipComment : List Char → Option (List Char)
  | '#' :: cs =>
    let rest := cs.dropWhile isTextChar
    if rest.isEmpty ∨ (newline? rest).isSome then some rest else none
  | cs => some cs

def gapStep (cs : List Char) : Option (Step Char) := do
  let rest ← skipComment (skipSpaces cs)
  match newline? rest with
  | some rest => some (.more [] rest)
  | none => some (.stop [] rest)

def skipGap (cs : List Char) : Option (List Char) := (collect gapStep cs).map Prod.snd

def endLine (cs : List Char) : Option (List Char) := do
  let rest ← skipComment (skipSpaces cs)
  if rest.isEmpty then some [] else newline? rest

def isBareChar (c : Char) : Bool := c.isAlphanum || c == '_' || c == '-'

def simpleKey : Reader String
  | '"' :: cs => (line '"' true cs).map fun (key, rest) => (.ofList key, rest)
  | '\'' :: cs => (line '\'' false cs).map fun (key, rest) => (.ofList key, rest)
  | cs =>
    let key := cs.takeWhile isBareChar
    if key.isEmpty then none else some (.ofList key, cs.drop key.length)

def keyStep (cs : List Char) : Option (Step String) := do
  let (key, rest) ← simpleKey (skipSpaces cs)
  match skipSpaces rest with
  | '.' :: rest => some (.more [key] rest)
  | rest => some (.stop [key] rest)

def path : Reader (List String) := fun cs => do
  let (keys, rest) ← collect keyStep cs
  if keys.length ≤ maxDepth then some (keys, rest) else none

def isDelimiter (c : Char) : Bool :=
  isSpace c || c == '\n' || c == '\r' || c == ',' || c == '[' || c == ']' || c == '\x7b'
    || c == '\x7d' || c == '#' || c == '='

def scalar : Reader Node := fun cs =>
  let token := cs.takeWhile (!isDelimiter ·)
  let rest := cs.drop token.length
  -- A date and a time of day may have one blank between them.
  let joined :=
    match takeDate token, rest with
    | some (_, []), ' ' :: after =>
      let time := after.takeWhile (!isDelimiter ·)
      if time.head?.any Char.isDigit then
        some (token ++ ' ' :: time, after.drop time.length)
      else
        none
    | _, _ => none
  let (token, rest) := joined.getD (token, rest)
  (scalar? token).map fun node => (node, rest)

def itemStep (value : Reader Node) (cs : List Char) : Option (Step Node) := do
  match ← skipGap cs with
  | ']' :: rest => some (.stop [] rest)
  | cs =>
    let (node, rest) ← value cs
    match ← skipGap rest with
    | ',' :: rest => some (.more [node] rest)
    | ']' :: rest => some (.stop [node] rest)
    | _ => none

def pair (gap : List Char → Option (List Char)) (value : Reader Node)
    : Reader (List String × Node) := fun cs => do
  let (key, rest) ← path cs
  match ← gap rest with
  | '=' :: rest =>
    let (node, rest) ← value (← gap rest)
    some ((key, node), rest)
  | _ => none

def pairStep (value : Reader Node) (cs : List Char) : Option (Step (List String × Node)) := do
  match ← skipGap cs with
  | '\x7d' :: rest => some (.stop [] rest)
  | cs =>
    let (p, rest) ← pair skipGap value cs
    match ← skipGap rest with
    | ',' :: rest => some (.more [p] rest)
    | '\x7d' :: rest => some (.stop [p] rest)
    | _ => none

def inlineTable? (pairs : List (List String × Node)) : Option Node := do
  let entries ← pairs.foldlM (fun es (key, node) => addPair key node .inline es) []
  some (.table .inline entries)

def flat : Reader Node := fun cs =>
  match cs with
  | '"' :: _ | '\'' :: _ => (quoted cs).map fun (s, rest) => (.string (.ofList s), rest)
  | cs => scalar cs

def value : (depth : Nat) → Reader Node
  | 0, cs => flat cs
  | depth + 1, cs =>
    match cs with
    | '[' :: cs =>
      (collect (itemStep (value depth)) cs).map fun (items, rest) => (.list items, rest)
    | '\x7b' :: cs => do
      let (pairs, rest) ← collect (pairStep (value depth)) cs
      let node ← inlineTable? pairs
      some (node, rest)
    | cs => flat cs

def header : Reader Statement
  | '[' :: cs => do
    let (key, rest) ← path cs
    match rest with
    | ']' :: ']' :: rest => some (.tablesHeader key, rest)
    | _ => none
  | cs => do
    let (key, rest) ← path cs
    match rest with
    | ']' :: rest => some (.header key, rest)
    | _ => none

def statement : Reader Statement
  | '[' :: cs => header cs
  | cs => do
    let ((key, node), rest) ← pair (some ∘ skipSpaces) (value maxDepth) cs
    some (.pair key node, rest)

def statementStep (cs : List Char) : Option (Step Statement) := do
  match ← skipGap cs with
  | [] => some (.stop [] [])
  | cs =>
    let (s, rest) ← statement cs
    let rest ← endLine rest
    some (.more [s] rest)

/-- The mark that some editors put before a text does not count. -/
def dropMark : List Char → List Char
  | c :: cs => if c.toNat = 0xFEFF then cs else c :: cs
  | [] => []

def ofText? (text : String) : Option Entries := do
  let (statements, _) ← collect statementStep (dropMark text.toList)
  let d ← Document.ofStatements statements
  some d.entries

end Counterpart.Toml
