import Counterpart.Log.Event
import Counterpart.Numeric.Decimal
import Counterpart.Text.Pattern

/-!
This module contains directives: the level down to which a part of the system reports, be it told by
its target, by a field that its events have, or by a span that it is in.
-/

namespace Counterpart.Log

open Numeric

/-- How far a part of the system reports; absent means not at all. -/
abbrev Threshold := Option Level

namespace Threshold

def number? (s : String) : Option Nat :=
  let digits :=
    match s.toList with
    | '+' :: cs => cs
    | cs => cs
  if digits.isEmpty || !digits.all Char.isDigit then none else some (Nat.ofDigitChars 10 digits 0)

def names : List (String × Level) := [
  ("error", .error), ("warn", .warn), ("info", .info), ("debug", .debug), ("trace", .trace)]

def level? (s : String) : Option Level :=
  match number? s with
  | some n => (names.map Prod.snd).find? (·.rank == n)
  | none => names.lookup (Text.lowerAscii s)

def ofText? (s : String) : Option Threshold :=
  if number? s = some 0 ∨ Text.lowerAscii s = "off" then some none else (level? s).map some

end Threshold

structure FieldQuery where
  name : String
  value : Option String := none
  deriving DecidableEq, Repr

namespace FieldQuery

def isValue (cs : List Char) : Bool :=
  (Binary.ofText? double cs).isSome || Text.Pattern.isPattern cs

def ofChars? (cs : List Char) : Option FieldQuery :=
  match Text.cutAt (· == '=') cs with
  | name :: value :: _ =>
    if isValue value then some { name := .ofList name, value := some (.ofList value) } else none
  | _ => some { name := .ofList cs }

end FieldQuery

/-- Sets a threshold for the targets that start with the given one, or for all, where the field is
asked for and the span is entered. -/
structure Directive where
  target : Option String := none
  span : Option String := none
  field : Option FieldQuery := none
  threshold : Threshold := some .trace
  deriving DecidableEq, Repr

namespace Directive

def mayStart (c : Char) : Bool :=
  Text.isLetterOrNumber c || c == '-' || c == ':' || c == '_'

/-- How many bytes a text takes. -/
def width : List Char → Nat
  | [] => 0
  | c :: cs => c.utf8Size + width cs

/-- The characters of a text that begin from one byte on and before another. -/
def between (start stop : Nat) : List Char → List Char
  | [] => []
  | c :: cs =>
    let rest := between (start - c.utf8Size) (stop - c.utf8Size) cs
    if start = 0 ∧ 0 < stop then c :: rest else rest

def withThreshold? (d : Directive) (cs : List Char) : Option Directive :=
  -- If nothing is said all is reported.
  if cs.isEmpty then some { d with threshold := some .trace }
  else (Threshold.ofText? (.ofList cs)).map fun threshold => { d with threshold }

def ofTail? (text : List Char) (d : Directive) (start : Nat) : List Char → Option Directive
  | [] => some d
  | '=' :: _ => d.withThreshold? (between (start + 1) (width text) text)
  | _ => none

def ofBrackets? (text : List Char) (d : Directive) (start : Nat) (cs : List Char)
    : Option Directive :=
  let (name, rest) := cs.span fun c => c != ']' && c != '\x7b'
  let stop := start + width name
  let span := between start stop text
  match rest with
  | ']' :: rest => ofTail? text { d with span := some (.ofList span) } (stop + 1) rest
  | _ :: rest =>
    let (query, rest) := rest.span (· != '\x7d')
    let fieldStart := stop + 1
    let fieldStop := fieldStart + width query
    match rest with
    | _ :: ']' :: rest =>
      let query := between fieldStart fieldStop text
      if query.isEmpty then
        none
      else do
        let field ← FieldQuery.ofChars? query
        let span := if span.isEmpty then none else some (String.ofList span)
        ofTail? text { d with span, field := some field } (fieldStop + 2) rest
    | _ => none
  | [] => none

def ofChars? (text : List Char) : Option Directive :=
  match Text.trimChars text with
  | [] => none
  | '[' :: cs => ofBrackets? text {} 1 cs
  | c :: cs =>
    if !mayStart c then
      none
    else
      let (word, rest) := (c :: cs).span fun c => c != '=' && c != '['
      let stop := width word
      -- The parts are told apart in the trimmed text, but cut from the text with its blanks, at the same
      -- places.
      let target := some (String.ofList (between 0 stop text))
      match rest with
      | [] =>
        -- A word alone is a threshold if it can be one.
        match Threshold.ofText? (.ofList text) with
        | some threshold => some { threshold }
        | none => some { target := some (.ofList text) }
      | '=' :: _ => withThreshold? { target } (between (stop + 1) (width text) text)
      | _ :: cs => ofBrackets? text { target } (stop + 1) cs

def concerns (d : Directive) (e : Event) : Bool :=
  -- Spans and the values of fields are asked for in spans only, and no event is in one.
  d.span.isNone
    && (d.target.all fun t => t.toList.isPrefixOf e.target.toList)
    && d.field.all fun q => q.value.isNone && e.fieldNames.contains q.name

/-- Whether the directive is as specific as another or more so: by the length of its target, then by
the name of its field. -/
def outweighs (d other : Directive) : Bool :=
  let size (d : Directive) : Nat := d.target.elim 0 (·.utf8ByteSize + 1)
  if size d = size other then
    match d.field, other.field with
    | some q, some r => r.name ≤ q.name
    | none, some _ => false
    | _, none => true
  else
    size other < size d

end Directive

end Counterpart.Log
