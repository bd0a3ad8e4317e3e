import Counterpart.Text.Blank

/-!
This module contains the syntax of electronic addresses that forms accept: email addresses, URLs
and phone numbers. All three look at the trimmed text.
-/

namespace Counterpart.Format

open Text

def isDomain (cs : List Char) : Bool :=
  match cs.reverse.span (· != '.') with
  | (last, _ :: before) => !last.isEmpty && !before.isEmpty
  | (_, []) => false

def isEmailChars (cs : List Char) : Bool :=
  !cs.any isBlank &&
    match cutAt (· == '@') cs with
    | [user, domain] => !user.isEmpty && isDomain domain
    | _ => false

def isEmail (s : String) : Bool := isEmailChars (trimChars s.toList)

def isScheme : List Char → Bool
  | [] => false
  | c :: cs => c.isAlpha && cs.all fun c => c.isAlphanum || c == '+' || c == '.' || c == '-'

def dropSlashes : List Char → List Char
  | '/' :: '/' :: cs => cs
  | cs => cs

def isUrlChars (cs : List Char) : Bool :=
  match cs.span (· != ':') with
  | (scheme, _ :: rest) =>
    isScheme scheme && !rest.any isBlank &&
      match dropSlashes rest with
      | [] => false
      | c :: _ => c != '/'
  | (_, []) => false

def isUrl (s : String) : Bool := isUrlChars (trimChars s.toList)

def isPhoneChar (c : Char) : Bool :=
  c.isDigit || isBlank c || c == '(' || c == ')' || c == '+' || c == '-' || c == '.'

def isPhoneChars (cs : List Char) : Bool := cs.all isPhoneChar && cs.any Char.isDigit

def isPhone (s : String) : Bool := isPhoneChars (trimChars s.toList)

end Counterpart.Format
