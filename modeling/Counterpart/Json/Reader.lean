import Counterpart.Json.Basic
import Counterpart.Numeric.Literal
import Counterpart.Text.Reader

/-!
This module contains the reader of JSON text. It accepts the grammar of the format and nothing
more: no blanks but the four of the grammar, no leading zeros, no lone surrogates, no number beyond
the range of doubles, and containers at most `maxDepth` deep. Members are kept as written.
-/

namespace Counterpart.Json

open Numeric
open Text (Reader hexNumber?)

def maxDepth : Nat := 127

def isBlank (c : Char) : Bool := c == ' ' || c == '\t' || c == '\n' || c == '\r'

def skipBlanks (cs : List Char) : List Char := cs.dropWhile isBlank

def shortEscape? (c : Char) : Option Char :=
  if c = '"' ∨ c = '\\' ∨ c = '/' then some c
  else if c = 'b' then some (Char.ofNat 8)
  else if c = 'f' then some (Char.ofNat 12)
  else if c = 'n' then some '\n'
  else if c = 'r' then some '\r'
  else if c = 't' then some '\t'
  else none

def stringBody : Reader (List Char)
  | [] => none
  | '"' :: rest => some ([], rest)
  | '\\' :: 'u' :: a :: b :: c :: d :: rest =>
    match hexNumber? [a, b, c, d] with
    | none => none
    | some high =>
      if 0xD800 ≤ high ∧ high < 0xDC00 then
        match rest with
        | '\\' :: 'u' :: a :: b :: c :: d :: rest =>
          match hexNumber? [a, b, c, d] with
          | none => none
          | some low =>
            if 0xDC00 ≤ low ∧ low < 0xE000 then
              let scalar := 0x10000 + (high - 0xD800) * 0x400 + (low - 0xDC00)
              (stringBody rest).map fun (cs, rest) => (Char.ofNat scalar :: cs, rest)
            else
              none
        | _ => none
      else if 0xDC00 ≤ high ∧ high < 0xE000 then
        none
      else
        (stringBody rest).map fun (cs, rest) => (Char.ofNat high :: cs, rest)
  | '\\' :: c :: rest =>
    match shortEscape? c with
    | none => none
    | some c => (stringBody rest).map fun (cs, rest) => (c :: cs, rest)
  | c :: rest =>
    if c = '\\' ∨ c.toNat < 32 then
      none
    else
      (stringBody rest).map fun (cs, rest) => (c :: cs, rest)

structure NumberParts where
  negative : Bool
  whole : List Char
  fraction : List Char
  exponent : Option Int

def NumberParts.value? (p : NumberParts) : Option Number :=
  let magnitude : Int := ofDigits p.whole
  let value := if p.negative then -magnitude else magnitude
  -- A negative zero becomes a double, because an integer could not keep its sign.
  let isInteger := p.fraction.isEmpty && p.exponent.isNone && !(p.negative && magnitude == 0)
  if h : isInteger = true ∧ IsWord value then
    some (.int value h.2)
  else
    ((Decimal.ofLeading p.whole p.fraction (p.exponent.getD 0)).scaled p.negative).map .float

def exponentPart : Reader (Option Int)
  | c :: rest =>
    if c = 'e' ∨ c = 'E' then
      (Decimal.scanExponent (c :: rest)).map fun (e, rest) => (some e, rest)
    else
      some (none, c :: rest)
  | [] => some (none, [])

def fractionPart : Reader (List Char)
  | '.' :: rest =>
    let (digits, rest) := spanDigits rest
    if digits.isEmpty then none else some (digits, rest)
  | rest => some ([], rest)

def wholePart (cs : List Char) : Option (List Char × List Char) :=
  let (digits, rest) := spanDigits cs
  match digits with
  | [] => none
  | '0' :: _ :: _ => none
  | digits => some (digits, rest)

def numberParts : Reader NumberParts := fun cs => do
  let (negative, cs) : Bool × List Char :=
    match cs with
    | '-' :: cs => (true, cs)
    | cs => (false, cs)
  let (whole, cs) ← wholePart cs
  let (fraction, cs) ← fractionPart cs
  let (exponent, cs) ← exponentPart cs
  some ({ negative, whole, fraction, exponent }, cs)

def numberLiteral : Reader Number := fun cs => do
  let (parts, rest) ← numberParts cs
  let n ← parts.value?
  some (n, rest)

def scalar : Reader Json
  | 'n' :: 'u' :: 'l' :: 'l' :: rest => some (.null, rest)
  | 't' :: 'r' :: 'u' :: 'e' :: rest => some (.bool true, rest)
  | 'f' :: 'a' :: 'l' :: 's' :: 'e' :: rest => some (.bool false, rest)
  | '"' :: rest => (stringBody rest).map fun (cs, rest) => (.string (.ofList cs), rest)
  | cs => (numberLiteral cs).map fun (n, rest) => (.number n, rest)

def parts (part : Reader α) (close : Char) : (fuel : Nat) → Reader (List α)
  | 0, _ => none
  | fuel + 1, cs =>
    match part cs with
    | none => none
    | some (a, rest) =>
      match skipBlanks rest with
      | [] => none
      | c :: rest =>
        if c = close then
          some ([a], rest)
        else if c = ',' then
          (parts part close fuel rest).map fun (as, rest) => (a :: as, rest)
        else
          none

def container (part : Reader α) (close : Char) : Reader (List α) := fun cs =>
  match skipBlanks cs with
  | [] => none
  | c :: rest =>
    if c = close then
      some ([], rest)
    else
      parts part close cs.length (c :: rest)

def key : Reader String := fun cs =>
  match skipBlanks cs with
  | '"' :: rest => (stringBody rest).map fun (cs, rest) => (.ofList cs, rest)
  | _ => none

def colon : Reader Unit := fun cs =>
  match skipBlanks cs with
  | ':' :: rest => some ((), rest)
  | _ => none

def member (value : Reader Json) : Reader (String × Json) := fun cs => do
  let (name, rest) ← key cs
  let ((), rest) ← colon rest
  let (j, rest) ← value rest
  some ((name, j), rest)

def value : (depth : Nat) → Reader Json
  | 0, cs => scalar (skipBlanks cs)
  | depth + 1, cs =>
    match skipBlanks cs with
    | '[' :: rest => (container (value depth) ']' rest).map fun (js, rest) => (.array js, rest)
    | '\x7b' :: rest =>
      (container (member (value depth)) '\x7d' rest).map fun (ms, rest) => (.object ms, rest)
    | cs => scalar cs

def atEnd (cs : List Char) : Bool := (skipBlanks cs).isEmpty

def ofText? (text : String) : Option Json :=
  match value maxDepth text.toList with
  | some (j, rest) => if atEnd rest then some j else none
  | none => none

end Counterpart.Json
