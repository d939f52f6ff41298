import LogIntake.Failure
import LogIntake.Table
import LogIntake.Text.Decimal

/-!
# Settings of the planner

How many records a cycle may plan, and where reading starts in a partition about which the
checkpoint says nothing. They are loaded from environment variables.

## Main definitions

- `Environment`: the variables by name.
- `ResetStrategy`, `DiscoveredStart`: the two policies for missing offsets.
- `PlannerSettings.load`: the settings of an environment, or the first fault in it.
-/

namespace LogIntake

abbrev Environment : Type := Table String String

/-- The variables of assignments such as `HOME=/root`. A name ends at the first equals sign. -/
def Environment.ofAssignments (assignments : List (List Char)) : Environment :=
  .ofList (assignments.filterMap fun a =>
    match a.span (· != '=') with
    | (name, _ :: value) => some (.ofList name, .ofList value)
    | (_, []) => none)

/-- The word that turns an option on, in any ASCII case. -/
def turnsOn (s : String) : Bool := s.toLower = "true"

def Environment.flag (env : Environment) (name : String) : Bool := (env.get? name).any turnsOn

/-- Where to start reading a log without a usable checkpoint. -/
inductive ResetStrategy where
  | earliest
  /-- At the end, so that only new records are read. -/
  | latest
  deriving DecidableEq, Repr

namespace ResetStrategy

def word : ResetStrategy → String
  | .earliest => "earliest"
  | .latest => "latest"

/-- The strategy of a word in any ASCII case. Each strategy has a second word. -/
def ofWord? (s : String) : Option ResetStrategy :=
  match s.toLower with
  | "earliest" | "smallest" => some .earliest
  | "latest" | "largest" => some .latest
  | _ => none

end ResetStrategy

/-- Where to start reading a partition that a checkpoint with other partitions leaves out. -/
inductive DiscoveredStart where
  /-- At offset zero, which is right as long as nothing of the partition was deleted. -/
  | zero
  | earliest
  deriving DecidableEq, Repr

namespace DiscoveredStart

def word : DiscoveredStart → String
  | .zero => "zero"
  | .earliest => "earliest"

/-- The policy of a word in any ASCII case. -/
def ofWord? (s : String) : Option DiscoveredStart :=
  match s.toLower with
  | "zero" => some .zero
  | "earliest" => some .earliest
  | _ => none

end DiscoveredStart

/-- The settings of a planner, which hold for all its cycles. -/
structure PlannerSettings where
  maxEvents : Int64
  reset : ResetStrategy
  discovered : DiscoveredStart
  deriving DecidableEq, Repr

/-- A million records, from the end of the log, and new partitions from offset zero. -/
def PlannerSettings.standard : PlannerSettings := ⟨1000000, .latest, .zero⟩

/-- Why settings have no meaning. -/
inductive SettingsError where
  | limitNotANumber (value : String) (cause : Decimal.ReadError)
  | limitNotPositive (value : String)
  | unknownReset (value : String)
  | unknownDiscovered (value : String)
  deriving DecidableEq

namespace PlannerSettings

def maxEventsVariable : String := "OFFSETGEN_MAX_EVENTS_PER_CYCLE"

def resetVariable : String := "OFFSETGEN_AUTO_OFFSET_RESET"

def discoveredVariable : String := "OFFSETGEN_NEW_PARTITION_START"

end PlannerSettings

namespace SettingsError

def text : SettingsError → String
  | .limitNotANumber v e =>
    PlannerSettings.maxEventsVariable ++ " '" ++ v ++ "' is not a number: " ++ e.message
  | .limitNotPositive v => PlannerSettings.maxEventsVariable ++ " must be positive, got " ++ v
  | .unknownReset v =>
    "'" ++ v ++ "', must be one of 'earliest', 'smallest', 'latest' or 'largest'"
  | .unknownDiscovered v =>
    "invalid new partition start '" ++ v ++ "', must be 'zero' or 'earliest'"

def failure : SettingsError → Failure
  | .unknownReset v => ⟨.unsupportedResetStrategy, text (.unknownReset v)⟩
  | e => ⟨.config, e.text⟩

end SettingsError

/-- The strategy of a word, or the error that there is none. -/
def ResetStrategy.read (s : String) : Except SettingsError ResetStrategy :=
  match ofWord? s with
  | some strategy => .ok strategy
  | none => .error (.unknownReset s)

/-- The policy of a word, or the error that there is none. -/
def DiscoveredStart.read (s : String) : Except SettingsError DiscoveredStart :=
  match ofWord? s with
  | some policy => .ok policy
  | none => .error (.unknownDiscovered s)

namespace PlannerSettings

/-- Reads a limit, which has to be a positive number of 64 bits. -/
def readLimit (s : String) : Except SettingsError Int64 :=
  match Decimal.read .signed64 s.toList with
  | .error e => .error (.limitNotANumber s e)
  | .ok n => if n ≤ 0 then .error (.limitNotPositive s) else .ok (.ofInt n)

/-- Reads a variable if it is set, and gives the default otherwise. -/
def readOr {α : Type} (env : Environment) (name : String) (default : α)
    (read : String → Except SettingsError α) : Except SettingsError α :=
  match env.get? name with
  | some value => read value
  | none => .ok default

/-- The settings of an environment. The variables are looked at one after the other, and the
first fault is the error. -/
def load (env : Environment) : Except SettingsError PlannerSettings := do
  let maxEvents ← readOr env maxEventsVariable standard.maxEvents readLimit
  let reset ← readOr env resetVariable standard.reset ResetStrategy.read
  let discovered ← readOr env discoveredVariable standard.discovered DiscoveredStart.read
  return ⟨maxEvents, reset, discovered⟩

end PlannerSettings

end LogIntake
