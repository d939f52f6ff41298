import LogIntake.Text.Decimal

/-!
# The command line

The program has one subcommand, `plan`, with options for the topic, the checkpoint and the limit
of the source. Arguments are read from left to right. A value that stands in an argument of its
own is only looked at when its option is complete, that is at the next option or at the end. So an
argument that is not understood is reported before a fault in the value in front of it.

## Main definitions

- `PlanRequest`: what a well-formed command line asks for.
- `UsageError`: why a command line is not carried out.
- `Argument.ofText`: the form of an argument.
- `PlanRequest.ofArguments`: the request of a command line.
-/

namespace LogIntake

/-- Why a command line is not carried out. -/
inductive UsageError where
  | noArguments
  | help
  | helpWithValue
  | unknownSubcommand
  | unknownArgument
  | missingValue
  | repeatedOption
  | badValue
  | missingTopic
  deriving DecidableEq, Repr

/-- The exit code for a command line that is not carried out. Asking for help is no fault. -/
def UsageError.exitCode : UsageError → UInt8
  | .help => 0
  | _ => 2

/-- How the program is used, for a user whose command line is not carried out. -/
def usageText : String :=
  "usage: plan --topic TOPIC [--checkpoint CHECKPOINT] [--source-limit LIMIT]"

inductive Argument where
  /-- Two hyphens alone: all that follows is not an option. -/
  | divider
  /-- An option with a name, and the value behind an equals sign. -/
  | long (name : String) (value : Option String)
  /-- A hyphen and letters. -/
  | short (letter : Char)
  /-- All else. A hyphen alone is no option. -/
  | plain
  deriving DecidableEq, Repr

def Argument.ofText (s : String) : Argument :=
  match s.toList with
  | ['-', '-'] => .divider
  | '-' :: '-' :: rest =>
    match rest.span (· != '=') with
    | (name, []) => .long (.ofList name) none
    | (name, _ :: value) => .long (.ofList name) (some (.ofList value))
  | '-' :: letter :: _ => .short letter
  | _ => .plain

/-- What a command line asks for: one cycle of a topic. -/
structure PlanRequest where
  topic : String
  checkpoint : Option String
  limit : Option Int64
  deriving DecidableEq, Repr

/-- An option of the subcommand. -/
inductive PlanOption where
  | topic
  | checkpoint
  | limit
  deriving DecidableEq, Repr

/-- The option of a name. Names are not abbreviated. -/
def PlanOption.ofName? : String → Option PlanOption
  | "topic" => some .topic
  | "checkpoint" => some .checkpoint
  | "source-limit" => some .limit
  | _ => none

structure OptionValues where
  topic : Option String
  checkpoint : Option String
  limit : Option Int64
  deriving DecidableEq, Repr

namespace OptionValues

def empty : OptionValues := ⟨none, none, none⟩

/-- Reads a limit: a number of 64 bits that is not negative. -/
def readLimit (s : String) : Except UsageError Int64 :=
  match Decimal.read .signed64 s.toList with
  | .ok n => if n < 0 then .error .badValue else .ok (.ofInt n)
  | .error _ => .error .badValue

/-- Puts a value in an empty place. -/
def fill {α : Type} (old : Option α) (new : Except UsageError α) : Except UsageError (Option α) :=
  match old with
  | some _ => .error .repeatedOption
  | none => new.map some

/-- Takes the value of an option. An option is taken once. -/
def take (values : OptionValues) (option : PlanOption) (value : String) :
    Except UsageError OptionValues :=
  match option with
  | .topic => (fill values.topic (.ok value)).map fun topic => { values with topic }
  | .checkpoint =>
    (fill values.checkpoint (.ok value)).map fun checkpoint => { values with checkpoint }
  | .limit => (fill values.limit (readLimit value)).map fun limit => { values with limit }

/-- The request of all values. Only the topic is needed. -/
def request (values : OptionValues) : Except UsageError PlanRequest :=
  match values.topic with
  | some topic => .ok ⟨topic, values.checkpoint, values.limit⟩
  | none => .error .missingTopic

end OptionValues

/-- An option that is not looked at yet, with the argument behind it if that is its value. -/
abbrev OpenOption : Type := PlanOption × Option String

/-- Completes an open option, which has to have a value. -/
def OptionValues.settle (values : OptionValues) : Option OpenOption → Except UsageError OptionValues
  | none => .ok values
  | some (_, none) => .error .missingValue
  | some (option, some value) => values.take option value

/-- Reads the arguments of the subcommand behind values already read and an open option. -/
def readOptions (values : OptionValues) (opened : Option OpenOption) :
    List String → Except UsageError PlanRequest
  | [] => do (← values.settle opened).request
  | arg :: rest =>
    match Argument.ofText arg with
    | .divider => if rest.isEmpty then do (← values.settle opened).request
      else .error .unknownArgument
    | .long "help" none => do
      let _ ← values.settle opened
      .error .help
    | .long "help" (some _) => .error .helpWithValue
    | .long name value =>
      match PlanOption.ofName? name, value with
      | none, _ => .error .unknownArgument
      | some option, none => do readOptions (← values.settle opened) (some (option, none)) rest
      | some option, some value => do
        readOptions (← (← values.settle opened).take option value) none rest
    | .short 'h' => do
      let _ ← values.settle opened
      .error .help
    | .short _ => .error .unknownArgument
    | .plain =>
      match opened with
      | some (option, none) => readOptions values (some (option, some arg)) rest
      | _ => .error .unknownArgument

def planWord : String := "plan"

/-- The subcommand that explains others. -/
def helpWord : String := "help"

/-- What asking for help on some subcommands gives. -/
def helpOn : List String → UsageError
  | [] => .help
  | [name] => if name = planWord ∨ name = helpWord then .help else .unknownSubcommand
  | _ => .unknownSubcommand

/-- What arguments behind a divider give: a subcommand may not stand there. -/
def behindDivider : List String → UsageError
  | [] => .noArguments
  | arg :: _ => if arg = planWord ∨ arg = helpWord then .unknownArgument else .unknownSubcommand

/-- The request of the arguments of the program. -/
def PlanRequest.ofArguments : List String → Except UsageError PlanRequest
  | [] => .error .noArguments
  | arg :: rest =>
    if arg = planWord then readOptions .empty none rest
    else if arg = helpWord then .error (helpOn rest)
    else
      match Argument.ofText arg with
      | .divider => .error (behindDivider rest)
      | .long "help" none => .error .help
      | .long "help" (some _) => .error .helpWithValue
      | .short 'h' => .error .help
      | .long _ _ => .error .unknownArgument
      | .short _ => .error .unknownArgument
      | .plain => .error .unknownSubcommand

end LogIntake
