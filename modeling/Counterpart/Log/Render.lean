import Counterpart.Json.Writer
import Counterpart.Log.Event
import Counterpart.Settings.Basic
import Counterpart.Text.Quoted

/-!
This module contains the written forms of events: lines of text, plain or coloured, and JSON
objects.
-/

namespace Counterpart.Log

structure Style where
  format : LogFormat := .pretty
  timestamps : Bool := false
  target : Bool := false
  deriving DecidableEq, Repr

inductive Line where
  | text (s : String)
  | json (j : Json)
  deriving DecidableEq

def timeMark : String := "TIME"

namespace Shown

def inLine : Shown → String
  | .bare s => s
  | .text s => Text.quote s
  | .count n => toString n
  | .flag b => if b then "true" else "false"

def toJson : Shown → Json
  | .bare s => .string s
  | .text s => .string s
  | .count n => .ofNat n
  | .flag b => .bool b

end Shown

def paint (colour : Bool) (code : String) (s : String) : String :=
  if colour then "\x1b[" ++ code ++ "m" ++ s ++ "\x1b[0m" else s

def dim : String := "2"

def italic : String := "3"

def Level.colour : Level → String
  | .error => "31"
  | .warn => "33"
  | .info => "32"
  | .debug => "34"
  | .trace => "35"

def Level.padded (l : Level) : String :=
  "".pushn ' ' (5 - l.name.length) ++ l.name

namespace Event

def textLine (style : Style) (colour : Bool) (e : Event) : String :=
  let time := if style.timestamps then paint colour dim timeMark ++ " " else ""
  let target :=
    if style.target then
      let rendition := if style.format = .compact then "1" else dim
      paint colour rendition e.target ++ paint colour dim ":" ++ " "
    else
      ""
  let shown := e.shown.map fun (name, value) =>
    " " ++ paint colour italic name ++ paint colour dim "=" ++ value.inLine
  time ++ paint colour e.level.colour e.level.padded ++ " " ++ target ++ e.message
    ++ String.join shown

def jsonLine (style : Style) (e : Event) : Json :=
  .object
    ([("fields", .object (("message", .string e.message) ::
        e.shown.map fun (name, value) => (name, value.toJson))),
      ("level", .string e.level.name)]
      ++ (if style.target then [("target", .string e.target)] else []))

def dropReturn (cs : List Char) : List Char :=
  if cs.getLast? = some '\r' then cs.dropLast else cs

def render (style : Style) (colour : Bool) (e : Event) : List Line :=
  match style.format with
  | .json => [.json (e.jsonLine style)]
  -- A value may break a line of text.
  | _ => ((Text.cutAt (· == '\n') (e.textLine style colour).toList).map
      fun cs => .text (.ofList (dropReturn cs)))

end Event

end Counterpart.Log
