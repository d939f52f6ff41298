import LogIntake.Text.Decimal

/-!
# Log events

What the program tells about its work while it goes on: a level, a message and named values. The
origin says which part of the program speaks, so that a filter can choose by it.
-/

namespace LogIntake

/-- How important an event is, from the least to the most important. -/
inductive Level where
  | trace
  | debug
  | info
  | warn
  | error
  deriving DecidableEq, Repr

namespace Level

def name : Level → String
  | .trace => "TRACE"
  | .debug => "DEBUG"
  | .info => "INFO"
  | .warn => "WARN"
  | .error => "ERROR"

def rank : Level → Nat
  | .trace => 0
  | .debug => 1
  | .info => 2
  | .warn => 3
  | .error => 4

end Level

/-- The part of the program that an event comes from. -/
inductive Origin where
  | reset
  | validation
  | planner
  | allocation
  | security
  | client
  | program
  deriving DecidableEq, Repr

/-- The name by which a filter knows an origin. The parts of a name are separated by two colons,
and the first one is what several origins have in common. -/
def Origin.target : Origin → String
  | .reset => "offsetgen_core::reset"
  | .validation => "offsetgen_core::validator"
  | .planner => "offsetgen_core::planner"
  | .allocation => "offsetgen_core::allocator"
  | .security => "offsetgen_kafka"
  | .client => "offsetgen_kafka::fetcher"
  | .program => "offsetgen"

inductive FieldValue where
  | integer (n : Int)
  | text (s : String)
  deriving DecidableEq, Repr

structure Event where
  origin : Origin
  level : Level
  message : String
  fields : List (String × FieldValue)
  deriving DecidableEq, Repr

/-- The names of what an event has. The message is one of them. -/
def Event.fieldNames (event : Event) : List String := "message" :: event.fields.map (·.1)

end LogIntake
