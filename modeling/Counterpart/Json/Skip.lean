import Counterpart.Json.Reader

/-!
This module contains the skipping of values in JSON text that nobody asks for. What is skipped has
to be well formed, but it need not denote anything: numbers may lie beyond every range, escapes may
be lone surrogates, and containers may be nested at will.
-/

namespace Counterpart.Json

open Text (Reader hexNumber?)

def skipString : List Char → Option (List Char)
  | [] => none
  | '"' :: rest => some rest
  | '\\' :: 'u' :: a :: b :: c :: d :: rest =>
    if (hexNumber? [a, b, c, d]).isSome then skipString rest else none
  | '\\' :: c :: rest => if (shortEscape? c).isSome then skipString rest else none
  | c :: rest => if c = '\\' ∨ c.toNat < 32 then none else skipString rest

def skipScalar : List Char → Option (List Char)
  | 'n' :: 'u' :: 'l' :: 'l' :: rest => some rest
  | 't' :: 'r' :: 'u' :: 'e' :: rest => some rest
  | 'f' :: 'a' :: 'l' :: 's' :: 'e' :: rest => some rest
  | '"' :: rest => skipString rest
  | cs => (numberParts cs).map Prod.snd

def skipKey (cs : List Char) : Option (List Char) :=
  match skipBlanks cs with
  | '"' :: rest => do
    let rest ← skipString rest
    let ((), rest) ← colon rest
    some rest
  | _ => none

/-- Skips up to the end of the containers that are open, the innermost of which `closing` names
first. The text goes on with a value, or with what follows one if `done` is set. -/
def skipOpen : (fuel : Nat) → (closing : List Char) → (done : Bool) → List Char →
    Option (List Char)
  | 0, _, _, _ => none
  | _ + 1, [], true, cs => some cs
  | fuel + 1, close :: outer, true, cs =>
    match skipBlanks cs with
    | [] => none
    | c :: rest =>
      if c = close then
        skipOpen fuel outer true rest
      else if c ≠ ',' then
        none
      else if close = '\x7d' then
        match skipKey rest with
        | some rest => skipOpen fuel (close :: outer) false rest
        | none => none
      else
        skipOpen fuel (close :: outer) false rest
  | fuel + 1, closing, false, cs =>
    match skipBlanks cs with
    | '[' :: rest =>
      match skipBlanks rest with
      | ']' :: rest => skipOpen fuel closing true rest
      | rest => skipOpen fuel (']' :: closing) false rest
    | '\x7b' :: rest =>
      match skipBlanks rest with
      | '\x7d' :: rest => skipOpen fuel closing true rest
      | rest =>
        match skipKey rest with
        | some rest => skipOpen fuel ('\x7d' :: closing) false rest
        | none => none
    | cs =>
      match skipScalar cs with
      | some rest => skipOpen fuel closing true rest
      | none => none

def skip : Reader Unit := fun cs =>
  -- Each step but the last uses up a character.
  (skipOpen (cs.length + 1) [] false cs).map fun rest => ((), rest)

end Counterpart.Json
