import LogIntake.Json
import LogIntake.LogFilter
import LogIntake.Settings

/-!
# How logs are written

Logs are JSON values for a machine, one on a line, or texts for a developer. The environment
decides which of them, and which events are written at all.

## Main definitions

- `Logging.load`: how an environment wants logs to be written.
- `Logging.written`: the events that are written.
- `Logging.line`: the line of an event.
-/

namespace LogIntake

structure Logging where
  /-- Logs are for a developer and not for a machine. -/
  debug : Bool
  filter : LogFilter

def FieldValue.toJson : FieldValue → Json
  | .integer n => .integer n
  | .text s => .string s

def FieldValue.render : FieldValue → String
  | .integer n => Decimal.render n
  | .text s => s

namespace Event

/-- An event as a JSON value. Its fields stand beside its message. -/
def toJson (event : Event) : Json :=
  .object (("level", .string event.level.name) :: ("message", .string event.message) ::
    event.fields.map fun f => (f.1, f.2.toJson))

def render (event : Event) : String :=
  event.level.name ++ " " ++ event.origin.target ++ ": " ++ event.message ++
    String.join (event.fields.map fun f => " " ++ f.1 ++ "=" ++ f.2.render)

end Event

namespace Logging

def debugVariable : String := "OFFSETGEN_DEBUG"

def filterVariable : String := "RUST_LOG"

/-- A developer sees more than an operator. -/
def standardLevel (debug : Bool) : Level := if debug then .debug else .info

/-- How an environment wants logs to be written. -/
def load (env : Environment) : Logging :=
  let debug := env.flag debugVariable
  ⟨debug, .ofText (standardLevel debug) ((env.get? filterVariable).getD "")⟩

def written (logging : Logging) (events : List Event) : List Event :=
  events.filter logging.filter.passes

def line (logging : Logging) (event : Event) : String :=
  if logging.debug then event.render else .ofList event.toJson.compact

end Logging

end LogIntake
