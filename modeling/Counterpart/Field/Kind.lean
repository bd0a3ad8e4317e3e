import Counterpart.Text.Case

/-!
This module contains the input types of form fields and the names under which they are known. A
name outside the closed set is kept, so that the field that bears it survives storage.
-/

namespace Counterpart

inductive FieldKind where
  | text
  | email
  | number
  | textarea
  | select
  | multiselect
  | radio
  | checkbox
  | date
  | file
  | url
  | phone
  /-- Carries no data: it is not validated, matched or imported. -/
  | button
  | unknown (name : String)
  deriving DecidableEq, Repr

namespace FieldKind

def name : FieldKind → String
  | .text => "text"
  | .email => "email"
  | .number => "number"
  | .textarea => "textarea"
  | .select => "select"
  | .multiselect => "multiselect"
  | .radio => "radio"
  | .checkbox => "checkbox"
  | .date => "date"
  | .file => "file"
  | .url => "url"
  | .phone => "phone"
  | .button => "button"
  | .unknown name => name

def names : List (String × FieldKind) := [
  ("text", .text),
  ("textfield", .text),
  ("email", .email),
  ("number", .number),
  ("textarea", .textarea),
  ("select", .select),
  ("multiselect", .multiselect),
  ("selectboxes", .multiselect),
  ("select-boxes", .multiselect),
  ("radio", .radio),
  ("checkbox", .checkbox),
  ("date", .date),
  ("datetime", .date),
  ("file", .file),
  ("url", .url),
  ("phone", .phone),
  ("phonenumber", .phone),
  ("button", .button)]

def ofName (name : String) : FieldKind :=
  let trimmed := Text.trim name
  (names.lookup (Text.lowerAscii trimmed)).getD (.unknown trimmed)

def bearsChoices : FieldKind → Bool
  | .select | .radio | .multiselect => true
  | _ => false

def carriesData : FieldKind → Bool
  | .button => false
  | _ => true

def isKnown : FieldKind → Bool
  | .unknown _ => false
  | _ => true

end FieldKind

end Counterpart
