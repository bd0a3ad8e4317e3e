import Counterpart.Text.Reader

/-!
This module contains quoted text in settings documents: basic strings with escapes and literal
strings without, on one line or over several.
-/

namespace Counterpart.Toml

open Text

def isTextChar (c : Char) : Bool :=
  c == '\t' || (0x20 ≤ c.toNat && c.toNat != 0x7F)

def isSpace (c : Char) : Bool := c == ' ' || c == '\t'

def newline? : List Char → Option (List Char)
  | '\n' :: cs => some cs
  | '\r' :: '\n' :: cs => some cs
  | _ => none

def escape : Reader Char
  | [] => none
  | c :: cs =>
    if c = '"' ∨ c = '\\' then some (c, cs)
    else if c = 'b' then some (Char.ofNat 8, cs)
    else if c = 't' then some ('\t', cs)
    else if c = 'n' then some ('\n', cs)
    else if c = 'f' then some (Char.ofNat 12, cs)
    else if c = 'r' then some ('\r', cs)
    else if c = 'e' then some (Char.ofNat 27, cs)
    else if c = 'x' then hexEscape 2 cs
    else if c = 'u' then hexEscape 4 cs
    else if c = 'U' then hexEscape 8 cs
    else none

def lineStep (quote : Char) (escapes : Bool) : List Char → Option (Step Char)
  | [] => none
  | c :: cs =>
    if c = quote then
      some (.stop [] cs)
    else if escapes ∧ c = '\\' then
      (escape cs).map fun (c, rest) => .more [c] rest
    else if isTextChar c then
      some (.more [c] cs)
    else
      none

def skipLines : List Char → List Char
  | '\r' :: '\n' :: cs => skipLines cs
  | c :: cs => if isSpace c || c == '\n' then skipLines cs else c :: cs
  | [] => []

def continued? (cs : List Char) : Option (List Char) :=
  (newline? (cs.dropWhile isSpace)).map skipLines

def blockStep (quote : Char) (escapes : Bool) (cs : List Char) : Option (Step Char) :=
  let quotes := (cs.takeWhile (· == quote)).length
  -- Three quotes end the string, and up to two more may stand before them.
  if 3 ≤ quotes then
    let run := min quotes 5
    some (.stop (List.replicate (run - 3) quote) (cs.drop run))
  else if 0 < quotes then
    some (.more (List.replicate quotes quote) (cs.drop quotes))
  else
    match cs with
    | [] => none
    | '\r' :: '\n' :: rest => some (.more ['\r', '\n'] rest)
    | '\n' :: rest => some (.more ['\n'] rest)
    | c :: rest =>
      if escapes ∧ c = '\\' then
        match continued? rest with
        | some rest => some (.more [] rest)
        | none => (escape rest).map fun (c, rest) => .more [c] rest
      else if isTextChar c then
        some (.more [c] rest)
      else
        none

def block (quote : Char) (escapes : Bool) : Reader (List Char) := fun cs =>
  -- An end of line that follows the opening quotes does not count.
  collect (blockStep quote escapes) ((newline? cs).getD cs)

def line (quote : Char) (escapes : Bool) : Reader (List Char) :=
  collect (lineStep quote escapes)

def quoted : Reader (List Char)
  | '"' :: '"' :: '"' :: cs => block '"' true cs
  | '\'' :: '\'' :: '\'' :: cs => block '\'' false cs
  | '"' :: cs => line '"' true cs
  | '\'' :: cs => line '\'' false cs
  | _ => none

end Counterpart.Toml
