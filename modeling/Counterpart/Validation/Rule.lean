import Counterpart.Format.Address
import Counterpart.Format.Scalar
import Counterpart.Json.Writer
import Counterpart.Log.Event
import Counterpart.Validation.Issue

/-!
This module contains the rules that values of fields must satisfy, one kind of rule for each group
of input types.
-/

namespace Counterpart

open Numeric

inductive TextSyntax where
  | any
  | email
  | url
  | phone
  deriving DecidableEq, Repr

namespace TextSyntax

def accepts : TextSyntax → String → Bool
  | .any, _ => true
  | .email, s => Format.isEmail s
  | .url, s => Format.isUrl s
  | .phone, s => Format.isPhone s

def issue : TextSyntax → Issue
  | .any => .expectedText
  | .email => .invalidEmail
  | .url => .invalidUrl
  | .phone => .invalidPhone

end TextSyntax

inductive Rule where
  | text (form : TextSyntax)
  | number (bounds : Option Bounds)
  | single (choices : Choices)
  | several (choices : Choices)
  | checkbox
  /-- No rule is known for the type, so any value is accepted. -/
  | any
  deriving DecidableEq

namespace Rule

def ofField? (f : Field) : Option Rule :=
  match f.kind with
  | .button => none
  | .text | .textarea | .date | .file => some (.text .any)
  | .email => some (.text .email)
  | .url => some (.text .url)
  | .phone => some (.text .phone)
  | .number => some (.number f.bounds)
  | .select | .radio => some (.single f.choices)
  | .multiselect => some (.several f.choices)
  | .checkbox => some .checkbox
  | .unknown _ => some .any

def acceptsEmpty : Rule → Json → Bool
  | .any, _ => true
  | .text _, .string _ => true
  | .several _, .array _ => true
  | _, _ => false

def display (j : Json) : String := j.scalarText?.getD j.write

def isChoice (choices : Choices) : Json → Bool
  | .string s => choices.hasValue s
  | _ => false

def check (mode : Mode) : Rule → Json → Except Issue Json
  | .text form, .string s => if form.accepts s then .ok (.string s) else .error form.issue
  | .text _, _ => .error .expectedText
  | .number bounds, j =>
    match j.asNumber? with
    | none => .error .expectedNumber
    | some x =>
      if bounds.all (·.contains (.finite x)) then
        match j with
        | .number n => .ok (.number n)
        | _ => .ok (.number (.ofDouble x))
      else
        .error (.outOfRange (.finite x) (bounds.bind Bounds.min) (bounds.bind Bounds.max))
  | .single choices, j => if isChoice choices j then .ok j else .error (.notAChoice (display j))
  | .several choices, .array items =>
    match items.filter (!isChoice choices ·) with
    | [] => .ok (.array items)
    | invalid => .error (.notChoices (invalid.map display))
  | .several _, _ => .error .expectedList
  | .checkbox, j =>
    let read :=
      match mode, j with
      | .submission, .bool b => some b
      | .submission, _ => none
      | .importing, j => j.asBool?
    match read with
    | some b => .ok (.bool b)
    | none => .error .expectedBoolean
  | .any, j => .ok j

end Rule

end Counterpart
