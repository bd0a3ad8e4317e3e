import Counterpart.Numeric.Layout
import Counterpart.Toml.Quoted

/-!
This module contains how single values are written in settings documents. A text is written in the
first form that needs no escape but for tabs: basic, literal, and the same over several lines; only
a text that has none of these is written as a basic string with escapes.
-/

namespace Counterpart.Toml

open Numeric

def longestRun (c : Char) (cs : List Char) : Nat := go 0 0 cs
where
  go (longest run : Nat) : List Char → Nat
    | [] => longest
    | d :: ds => if c = d then go (max longest (run + 1)) (run + 1) ds else go longest 0 ds

def needsEscape (c : Char) : Bool := !isTextChar c && c != '\n'

def escapeChar (c : Char) : List Char :=
  if c = '"' then ['\\', '"']
  else if c = '\\' then ['\\', '\\']
  else if c = '\n' then ['\\', 'n']
  else if c = '\r' then ['\\', 'r']
  else if c = '\t' then ['\\', 't']
  else if c.toNat = 8 then ['\\', 'b']
  else if c.toNat = 12 then ['\\', 'f']
  else if needsEscape c then
    ['\\', 'u', '0', '0', hexChar (c.toNat / 16), hexChar (c.toNat % 16)]
  else [c]
where
  hexChar (n : Nat) : Char := (Nat.digitChar n).toUpper

/-- The inside of a string over several lines, after a run of quotes. -/
def blockChars (run : Nat) : List Char → List Char
  | [] => []
  | c :: cs =>
    if c = '"' then
      -- Of three quotes in a row the third is escaped.
      if run < 2 then '"' :: blockChars (run + 1) cs else '\\' :: '"' :: blockChars 0 cs
    else if c = '\n' then
      '\n' :: blockChars 0 cs
    else
      escapeChar c ++ blockChars 0 cs

def stringChars (cs : List Char) : List Char :=
  let doubles := longestRun '"' cs
  let singles := longestRun '\'' cs
  let lines := cs.contains '\n'
  let backslash := cs.contains '\\'
  let plain := !cs.any needsEscape
  let lead := if lines then ['\n'] else []
  let basic := '"' :: (cs.flatMap escapeChar ++ ['"'])
  let block := ['"', '"', '"'] ++ lead ++ blockChars 0 cs ++ ['"', '"', '"']
  if plain && !backslash && doubles == 0 && !lines then
    basic
  else if plain && singles == 0 && !lines then
    '\'' :: (cs ++ ['\''])
  else if plain && !backslash && doubles ≤ 2 then
    block
  else if plain && singles ≤ 2 then
    ['\'', '\'', '\''] ++ lead ++ cs ++ ['\'', '\'', '\'']
  else if lines then
    block
  else
    basic

def writeString (s : String) : String := .ofList (stringChars s.toList)

def layout : Layout := { Layout.plain with pointed := true }

def writeFloat {f : Format} : Binary f → String
  | .finite x => layout.write x
  | .infinite negative => if negative then "-inf" else "inf"
  | .nan => "nan"

def writeBool (b : Bool) : String := if b then "true" else "false"

end Counterpart.Toml
