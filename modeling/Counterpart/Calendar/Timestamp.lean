import Counterpart.Calendar.Pattern

/-!
This module contains internet timestamps, which name a date, a time of day and an offset from
universal time with fixed widths throughout, and the check whether a text is a date of any form.
-/

namespace Counterpart.Calendar

open Numeric

def takeDigits (count : Nat) (cs : List Char) : Option (Nat × List Char) :=
  let digits := cs.take count
  if digits.length = count ∧ digits.all Char.isDigit then
    some (ofDigits digits, cs.drop count)
  else
    none

def takeChar (p : Char → Bool) : List Char → Option (List Char)
  | [] => none
  | c :: cs => if p c then some cs else none

def dropFraction : List Char → Option (List Char)
  | '.' :: cs =>
    let (digits, rest) := spanDigits cs
    if digits.isEmpty then none else some rest
  | cs => some cs

/-- The signs of an offset: plus, hyphen and minus. -/
def isOffsetSign (c : Char) : Bool := c == '+' || c == '-' || c == Char.ofNat 0x2212

def isOffset (cs : List Char) : Bool :=
  match cs with
  | ['Z'] | ['z'] => true
  | cs =>
    (do
      let cs ← takeChar isOffsetSign cs
      let (hours, cs) ← takeDigits 2 cs
      let cs ← takeChar (· == ':') cs
      let (minutes, cs) ← takeDigits 2 cs
      return decide (hours ≤ 23) && decide (minutes ≤ 59) && cs.isEmpty : Option Bool).any id

def isTimestamp (cs : List Char) : Bool :=
  (do
    let (year, cs) ← takeDigits 4 cs
    let cs ← takeChar (· == '-') cs
    let (month, cs) ← takeDigits 2 cs
    let cs ← takeChar (· == '-') cs
    let (day, cs) ← takeDigits 2 cs
    let cs ← takeChar (fun c => c == 'T' || c == 't' || c == ' ') cs
    let (hour, cs) ← takeDigits 2 cs
    let cs ← takeChar (· == ':') cs
    let (minute, cs) ← takeDigits 2 cs
    let cs ← takeChar (· == ':') cs
    let (second, cs) ← takeDigits 2 cs
    let cs ← dropFraction cs
    let m : Moment := { year, month, day, hour, minute, second }
    return m.exists? && isOffset cs : Option Bool).any id

def isDateChars (cs : List Char) : Bool :=
  isTimestamp cs || Pattern.dateTimes.any (·.accepts cs) || Pattern.dates.any (·.accepts cs)

def isDate (s : String) : Bool := isDateChars (Text.trimChars s.toList)

end Counterpart.Calendar
