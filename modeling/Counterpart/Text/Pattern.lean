import Counterpart.Text.Blank
import Counterpart.Text.Letter
import Counterpart.Text.Reader

/-!
This module contains the form of regular expressions: which texts are one. There are no references
back and no looking around. Characters are those of Unicode unless a group switches to ASCII; at the
ends of words only ASCII is looked at, so that these can only be asked for there.
-/

namespace Counterpart.Text.Pattern

structure Modes where
  unicode : Bool := true
  /-- Whether blanks, and comments to the end of a line, are left out. -/
  spaced : Bool := false

namespace Modes

def dropSpace (inComment : Bool) : List Char → List Char
  | [] => []
  | c :: cs =>
    if inComment then dropSpace (c != '\n') cs
    else if c = '#' then dropSpace true cs
    else if isBlank c then dropSpace false cs
    else c :: cs

def skip (m : Modes) (cs : List Char) : List Char := if m.spaced then dropSpace false cs else cs

end Modes

inductive Atom where
  | character (c : Char)
  /-- Any character of a class; `ascii` says that no other characters are in it. -/
  | charClass (ascii : Bool)
  | place
  /-- A place at an end of a word, or the absence of one. -/
  | wordEnd

def Atom.isAllowed (m : Modes) : Atom → Bool
  | .character c => m.unicode || c.toNat < 0x80
  | .charClass ascii => m.unicode || ascii
  | .place => true
  | .wordEnd => !m.unicode

def controls : List (Char × Char) := [
  ('a', '\x07'), ('t', '\t'), ('n', '\n'), ('v', '\x0b'), ('f', '\x0c'), ('r', '\r')]

def escape : Reader Atom
  | [] => none
  | c :: cs =>
    if c = 'x' then (hexEscape 2 cs).map fun (c, rest) => (.character c, rest)
    else if c = 'u' then (hexEscape 4 cs).map fun (c, rest) => (.character c, rest)
    else if c = 'U' then (hexEscape 8 cs).map fun (c, rest) => (.character c, rest)
    else if c = 'p' ∨ c = 'P' then
      match cs with
      | kind :: rest =>
        if "clmnpsz".toList.contains kind.toLower then some (.charClass false, rest) else none
      | [] => none
    else if "dsw".toList.contains c then some (.charClass true, cs)
    else if "DSW".toList.contains c then some (.charClass false, cs)
    else if c = 'A' ∨ c = 'z' then some (.place, cs)
    else if "bB<>".toList.contains c then some (.wordEnd, cs)
    -- Marks stand for themselves, letters and digits do not.
    else if c.toNat < 0x80 ∧ ¬c.isAlphanum then some (.character c, cs)
    else (controls.lookup c).map fun c => (.character c, cs)

def classNames : List String := [
  "alnum", "alpha", "ascii", "blank", "cntrl", "digit", "graph", "lower", "print", "punct", "space",
  "upper", "word", "xdigit"]

def namedClass : Reader Unit
  | ':' :: cs =>
    let (name, rest) := (if cs.head? = some '^' then cs.drop 1 else cs).span (· != ':')
    match rest with
    | ':' :: ']' :: rest =>
      if classNames.contains (.ofList name) then some ((), rest) else none
    | _ => none
  | _ => none

def setStart (m : Modes) (cs : List Char) : Bool × List Char :=
  let (negated, cs) :=
    match m.skip cs with
    | '^' :: cs => (true, m.skip cs)
    | cs => (false, cs)
  match cs with
  -- A bracket or hyphens at the start stand for themselves.
  | ']' :: rest => (negated, rest)
  | cs => (negated, cs.dropWhile (· == '-'))

def setMember (m : Modes) : Reader (Option Char)
  | [] => none
  | '\\' :: cs => do
    let (a, rest) ← escape cs
    match a with
    | .character c => if a.isAllowed m then some (some c, rest) else none
    | .charClass _ => if a.isAllowed m then some (none, rest) else none
    | _ => none
  | c :: cs => if (Atom.character c).isAllowed m then some (some c, cs) else none

def setRange (m : Modes) : Reader Unit := fun cs => do
  let (first, rest) ← setMember m cs
  match m.skip rest with
  | '-' :: after =>
    match m.skip after with
    | ']' :: _ | '-' :: _ => some ((), rest)
    | after => do
      let (last, rest) ← setMember m after
      match first, last with
      | some first, some last => if first ≤ last then some ((), rest) else none
      | _, _ => none
  | _ => some ((), rest)

def setRest (m : Modes) : (fuel depth : Nat) → Reader Unit
  | 0, _, _ => none
  | fuel + 1, depth, cs =>
    match m.skip cs with
    | [] => none
    | '[' :: cs =>
      match namedClass cs with
      | some ((), rest) => setRest m fuel depth rest
      | none => setRest m fuel (depth + 1) (setStart m cs).2
    | ']' :: cs =>
      match depth with
      | 0 => some ((), cs)
      | depth + 1 => setRest m fuel depth cs
    -- Sets may be joined by doubled marks.
    | '&' :: '&' :: cs | '-' :: '-' :: cs | '~' :: '~' :: cs => setRest m fuel depth cs
    | cs =>
      match setRange m cs with
      | some ((), rest) => setRest m fuel depth rest
      | none => none

def set (m : Modes) : Reader Unit := fun cs =>
  let (negated, rest) := setStart m cs
  if negated ∧ ¬m.unicode then none else setRest m (cs.length + 1) 0 rest

/-- Gives the letters, with the hyphen that switches those after it off, and whether a bracket follows. -/
def switches : List Char → Option (List Char × Bool × List Char) := fun cs =>
  let (letters, rest) := cs.span fun c => c != ':' && c != ')'
  match rest with
  | [] => none
  | mark :: rest =>
    if letters.all "imsUuRx-".toList.contains && letters.eraseDups.length == letters.length
        && letters.getLast? != some '-' then
      some (letters, mark == ')', rest)
    else
      none

def Modes.switch (m : Modes) (letters : List Char) : Modes :=
  let (on, off) := letters.span (· != '-')
  { unicode := (m.unicode || on.contains 'u') && !off.contains 'u'
    spaced := (m.spaced || on.contains 'x') && !off.contains 'x' }

structure State where
  modes : Modes := {}
  /-- The modes to go back to after each open group, the innermost first. -/
  outer : List Modes := []
  names : List (List Char) := []
  /-- Whether there is something before that can be repeated. -/
  repeatable : Bool := false

namespace State

def enter (s : State) (modes : Modes) : State :=
  { s with modes, outer := s.modes :: s.outer, repeatable := false }

def canName : List Char → Bool
  | [] => false
  | c :: cs =>
    (c == '_' || isLetter c)
      && cs.all fun c => c == '_' || c == '.' || c == '[' || c == ']' || isLetterOrNumber c

def opening (s : State) : Reader State
  | '?' :: '<' :: '!' :: _ | '?' :: '<' :: '=' :: _ => none
  | '?' :: 'P' :: '<' :: cs | '?' :: '<' :: cs =>
    let (name, rest) := cs.span (· != '>')
    match rest with
    | _ :: rest =>
      if canName name && !s.names.contains name then
        some ({ s.enter s.modes with names := name :: s.names }, rest)
      else
        none
    | [] => none
  | '?' :: cs => do
    let (letters, isAlone, rest) ← switches cs
    let modes := s.modes.switch letters
    -- Modes may be switched without a group.
    if !isAlone then some (s.enter modes, rest)
    else if letters.isEmpty then none
    else some ({ s with modes, repeatable := false }, rest)
  | cs => some (s.enter s.modes, cs)

def step (s : State) : Reader State
  | [] => none
  | '(' :: cs => s.opening (s.modes.skip cs)
  | ')' :: cs =>
    match s.outer with
    | [] => none
    | modes :: outer => some ({ s with modes, outer, repeatable := true }, cs)
  | '|' :: cs => some ({ s with repeatable := false }, cs)
  | '[' :: cs => (set s.modes cs).map fun ((), rest) => ({ s with repeatable := true }, rest)
  | '\\' :: cs => do
    let (a, rest) ← escape cs
    if a.isAllowed s.modes then some ({ s with repeatable := true }, rest) else none
  | '\x7b' :: _ => none
  | c :: cs =>
    if c = '*' ∨ c = '+' ∨ c = '?' then
      if s.repeatable then some (s, if cs.head? = some '?' then cs.drop 1 else cs) else none
    else
      let a : Atom :=
        if c = '.' then .charClass false
        else if c = '^' ∨ c = '$' then .place
        else .character c
      if a.isAllowed s.modes then some ({ s with repeatable := true }, cs) else none

def completes : (fuel : Nat) → State → List Char → Bool
  | 0, _, _ => false
  | fuel + 1, s, cs =>
    match s.modes.skip cs with
    | [] => s.outer.isEmpty
    | cs =>
      match s.step cs with
      | some (s, rest) => completes fuel s rest
      | none => false

end State

-- A counted repetition, which braces would hold, is no pattern.
def isPattern (cs : List Char) : Bool := State.completes (cs.length + 1) {} cs

end Counterpart.Text.Pattern
