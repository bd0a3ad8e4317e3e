import Counterpart.Calendar.Timestamp
import Counterpart.Numeric.Decimal
import Counterpart.Text.Reader
import Counterpart.Toml.Tree

/-!
This module contains the values that are written without quotes in settings documents: truth
values, integers in four bases, floats, and dates and times.
-/

namespace Counterpart.Toml

open Numeric Text

def groupedDigits? (isDigit : Char → Bool) (cs : List Char) : Option (List Char) :=
  let groups := cutAt (· == '_') cs
  if groups.all fun g => !g.isEmpty && g.all isDigit then some groups.flatten else none

def wholeDigits? (cs : List Char) : Option (List Char) := do
  let digits ← groupedDigits? Char.isDigit cs
  match digits with
  | '0' :: _ :: _ => none
  | digits => some digits

def splitSign : List Char → Bool × List Char
  | '-' :: cs => (true, cs)
  | '+' :: cs => (false, cs)
  | cs => (false, cs)

def integerNode (n : Int) : Node :=
  if -0x80000000000000000000000000000000 ≤ n ∧ n ≤ 0xFFFFFFFFFFFFFFFFFFFFFFFFFFFFFFFF then
    .integer n
  else
    .noNumber

/-- Whether every underscore of a text stands after and before a digit of any base. A lone sign
counts as a digit. -/
def hasGroups (cs : List Char) : Bool :=
  let isDigit (c : Char) : Bool := (hexDigit? c).isSome
  let groups := cutAt (· == '_') cs
  groups.all (!·.isEmpty) && (groups.drop 1).all (·.head?.any isDigit)
    && groups.dropLast.all fun g => g.length == 1 || g.getLast?.any isDigit

def decimalInteger? (cs : List Char) : Option Node :=
  let (negative, body) := splitSign cs
  let (digits, rest) := spanDigits body
  let signed (digits : List Char) : Node :=
    let n : Int := ofDigits digits
    integerNode (if negative then -n else n)
  match digits, rest with
  | '0' :: _ :: _, [] | [], [] => none
  | digits, [] => some (signed digits)
  | digits, '_' :: _ =>
    -- Underscores make the form right whatever stands between them, but only digits denote an integer.
    if digits.head? = some '0' ∨ !hasGroups cs then
      none
    else
      let digits := body.filter (· != '_')
      some (if digits.all Char.isDigit then signed digits else .noNumber)
  | _, _ => none

def prefixedInteger? : List Char → Option Node
  | '0' :: 'x' :: cs => inBase 16 cs
  | '0' :: 'o' :: cs => inBase 8 cs
  | '0' :: 'b' :: cs => inBase 2 cs
  | _ => none
where
  inBase (base : Nat) (cs : List Char) : Option Node := do
    let isDigit (c : Char) : Bool := (hexDigit? c).any (· < base)
    -- Without digits the form is right, but no integer is denoted.
    if cs.isEmpty then
      return .noNumber
    let digits ← groupedDigits? isDigit cs
    let n := digits.foldl (fun n c => n * base + (hexDigit? c).getD 0) 0
    return integerNode n

def splitAtFirst (p : Char → Bool) (cs : List Char) : List Char × Option (List Char) :=
  match cs.span (!p ·) with
  | (before, _ :: after) => (before, some after)
  | (before, []) => (before, none)

def float? (cs : List Char) : Option Node := do
  let (negative, body) := splitSign cs
  if body = "inf".toList then
    return .float (.infinite negative)
  if body = "nan".toList then
    return .float .nan
  let (mantissa, exponent) := splitAtFirst (fun c => c == 'e' || c == 'E') body
  let (whole, fraction) := splitAtFirst (· == '.') mantissa
  if exponent.isNone && fraction.isNone then
    none
  let whole ←
    match whole with
    -- An underscore may follow a sign.
    | '_' :: digits =>
      if body.length < cs.length then groupedDigits? Char.isDigit digits else none
    | digits => wholeDigits? digits
  let fraction ←
    match fraction with
    | none => some []
    | some cs => groupedDigits? Char.isDigit cs
  let exponent : Int ←
    match exponent with
    | none => some 0
    | some cs => do
      let (negative, cs) := splitSign cs
      let digits ← groupedDigits? Char.isDigit cs
      let n : Int := ofDigits digits
      some (if negative then -n else n)
  match ((Decimal.ofParts whole fraction exponent).round double negative).finite? with
  | some x => return .float (.finite x)
  | none => return .noNumber

def takeTime (m : Calendar.Moment) (cs : List Char) : Option (Calendar.Moment × List Char) := do
  let (hour, cs) ← Calendar.takeDigits 2 cs
  let cs ← Calendar.takeChar (· == ':') cs
  let (minute, cs) ← Calendar.takeDigits 2 cs
  match cs with
  | ':' :: cs =>
    let (second, cs) ← Calendar.takeDigits 2 cs
    let cs ← Calendar.dropFraction cs
    return ({ m with hour, minute, second }, cs)
  | cs => return ({ m with hour, minute }, cs)

def takeDate (cs : List Char) : Option (Calendar.Moment × List Char) := do
  let (year, cs) ← Calendar.takeDigits 4 cs
  let cs ← Calendar.takeChar (· == '-') cs
  let (month, cs) ← Calendar.takeDigits 2 cs
  let cs ← Calendar.takeChar (· == '-') cs
  let (day, cs) ← Calendar.takeDigits 2 cs
  return ({ year, month, day }, cs)

def isOffset (cs : List Char) : Bool :=
  Calendar.isOffset cs && cs.head?.any fun c => c.toNat < 0x80

def datetime? (cs : List Char) : Option Node :=
  let accepted : Bool :=
    match takeDate cs with
    | some (m, []) => m.IsDate
    | some (m, c :: cs) =>
      if c = 'T' ∨ c = 't' ∨ c = ' ' then
        match takeTime m cs with
        | some (m, rest) => m.exists? && (rest.isEmpty || isOffset rest)
        | none => false
      else
        false
    | none =>
      match takeTime {} cs with
      | some (m, []) => m.IsTime
      | _ => false
  if accepted then some .datetime else none

def scalar? (cs : List Char) : Option Node :=
  if cs = "true".toList then some (.boolean true)
  else if cs = "false".toList then some (.boolean false)
  else if cs.any fun c => c == '.' || c == 'e' || c == 'E' then
    ((prefixedInteger? cs).or (float? cs)).or (datetime? cs)
  else
    (((decimalInteger? cs).or (prefixedInteger? cs)).or (float? cs)).or (datetime? cs)

end Counterpart.Toml
