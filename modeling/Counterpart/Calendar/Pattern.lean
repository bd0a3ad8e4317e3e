import Counterpart.Calendar.Date
import Counterpart.Numeric.Decimal
import Counterpart.Text.Blank

/-!
This module contains patterns of dates and times, and how a text is read along one. A number may
have blanks before it and fewer digits than its width, and must not have more.
-/

namespace Counterpart.Calendar

open Numeric

inductive Part where
  | month
  | day
  | hour
  | minute
  | second
  deriving DecidableEq, Repr

inductive Element where
  /-- Up to four digits, or a sign and any number of digits. -/
  | year
  | part (p : Part)
  | literal (c : Char)
  | blanks
  deriving DecidableEq, Repr

abbrev Pattern := List Element

def Part.set (p : Part) (n : Nat) (m : Moment) : Moment :=
  match p with
  | .month => { m with month := n }
  | .day => { m with day := n }
  | .hour => { m with hour := n }
  | .minute => { m with minute := n }
  | .second => { m with second := n }

def takeNumber (width : Nat) (cs : List Char) : Option (Nat × List Char) :=
  let digits := (cs.take width).takeWhile Char.isDigit
  if digits.isEmpty then none else some (ofDigits digits, cs.drop digits.length)

def takeLongNumber (cs : List Char) : Option (Nat × List Char) :=
  let (digits, rest) := spanDigits cs
  if digits.isEmpty then none else some (ofDigits digits, rest)

def takeYear : List Char → Option (Int × List Char)
  | '-' :: cs => (takeLongNumber cs).map fun (n, rest) => (-n, rest)
  | '+' :: cs => (takeLongNumber cs).map fun (n, rest) => (n, rest)
  | cs => (takeNumber 4 cs).map fun (n, rest) => (n, rest)

def Pattern.read (pattern : Pattern) (m : Moment) (cs : List Char) : Option Moment :=
  match pattern with
  | [] => if cs.isEmpty then some m else none
  | .year :: pattern => do
    let (year, rest) ← takeYear (cs.dropWhile Text.isBlank)
    Pattern.read pattern { m with year } rest
  | .part p :: pattern => do
    let (n, rest) ← takeNumber 2 (cs.dropWhile Text.isBlank)
    Pattern.read pattern (p.set n m) rest
  | .literal c :: pattern =>
    match cs with
    | d :: rest => if c = d then Pattern.read pattern m rest else none
    | [] => none
  | .blanks :: pattern => Pattern.read pattern m (cs.dropWhile Text.isBlank)

namespace Pattern

def yearFirst (mark : Char) : Pattern :=
  [.year, .literal mark, .part .month, .literal mark, .part .day]

def monthFirst : Pattern :=
  [.part .month, .literal '/', .part .day, .literal '/', .year]

def dayFirst : Pattern :=
  [.part .day, .literal '.', .part .month, .literal '.', .year]

def hourMinute : Pattern := [.part .hour, .literal ':', .part .minute]

def hourMinuteSecond : Pattern := hourMinute ++ [.literal ':', .part .second]

def dates : List Pattern := [yearFirst '-', yearFirst '/', monthFirst, dayFirst]

def dateTimes : List Pattern := [
  yearFirst '-' ++ .literal 'T' :: hourMinuteSecond,
  yearFirst '-' ++ .literal 'T' :: hourMinute,
  yearFirst '-' ++ .blanks :: hourMinuteSecond,
  yearFirst '-' ++ .blanks :: hourMinute]

def accepts (pattern : Pattern) (cs : List Char) : Bool :=
  (pattern.read {} cs).any Moment.exists?

end Pattern

end Counterpart.Calendar
