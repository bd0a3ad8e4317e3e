import Counterpart.Log.Filter
import Counterpart.Log.Render

/-!
This module contains the setting up of the log: the one subscriber that can be installed, and
whether submitted values may be shown.
-/

namespace Counterpart

namespace Log

structure Config where
  level : Level
  style : Style := {}
  /-- The file that events are appended to; absent, they go to the error stream. -/
  file : Option String := none
  logData : Bool := false
  deriving DecidableEq

inductive SetupError where
  | unknownLevel (name : String)
  | cannotOpen (path : String)
  | alreadyInstalled
  deriving DecidableEq, Repr

def SetupError.message : SetupError → String
  | .unknownLevel name => "unknown log level '" ++ name ++ "'"
  | .cannotOpen path => "open log file " ++ path
  | .alreadyInstalled => "install tracing subscriber"

structure State where
  subscriber : Option Config := none
  showsData : Bool := false
  deriving DecidableEq

def redacted : String := "[REDACTED]"

namespace State

def redact (s : State) (value : String) : String := if s.showsData then value else redacted

def install (opens : String → Bool) (c : Config) (s : State) : Except SetupError Unit × State :=
  match c.file.filter (!opens ·) with
  | some path => (.error (.cannotOpen path), s)
  | none =>
    match s.subscriber with
    -- Whether values are shown follows the configuration also if there is a subscriber already.
    | some _ => (.error .alreadyInstalled, { s with showsData := c.logData })
    | none => (.ok (), { subscriber := some c, showsData := c.logData })

def filter (c : Config) (directives : Option String) : Filter :=
  (directives.bind Filter.ofText?).getD (.ofLevel c.level)

def lines (s : State) (directives : Option String) (events : List Event) : List Line :=
  match s.subscriber with
  | none => []
  | some c =>
    (events.filter (filter c directives).passes).flatMap fun e =>
      e.render c.style c.file.isNone

end State

end Log

namespace LoggingSettings

open Log

def config (s : LoggingSettings) : Except SetupError Config :=
  match Threshold.level? (Text.trim s.level) with
  | none => .error (.unknownLevel s.level)
  | some level =>
    .ok { level, style := { format := s.format }, file := s.file, logData := s.logData }

end LoggingSettings

end Counterpart
