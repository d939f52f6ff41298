import LogIntake.CommandLine
import LogIntake.Cycle
import LogIntake.Kafka.Client
import LogIntake.Logging

/-!
# The program

One run plans one cycle: it reads the command line and the environment, connects to the cluster,
plans, and prints the plan. The steps are taken in this order and the first one that fails decides
how the run ends. A run that fails prints nothing.

## Main definitions

- `RunError`: why a run has no plan.
- `Run`: the result of a run and the events logged in it.
- `Run.ofArguments`: the run of a command line.
- `Run.exitCode`, `Run.output`, `Run.errorText?`: what is seen of a run.
-/

namespace LogIntake

/-- Why a run of the program has no plan. -/
inductive RunError where
  | usage (cause : UsageError)
  | settings (cause : SettingsError)
  | connection (cause : Kafka.ConnectionError)
  | client (cause : Kafka.Error)
  | cycle (cause : CycleError)
  deriving DecidableEq

namespace RunError

/-- The error as it is shown to a developer. A fault in the command line is explained to the user
instead. -/
def debugText? : RunError → Option String
  | .usage _ => none
  | .settings e => some e.failure.debugText
  | .connection e => some e.error.debugText
  | .client e => some e.debugText
  | .cycle e => some e.failure.debugText

def exitCode : RunError → UInt8
  | .usage e => e.exitCode
  | _ => 1

end RunError

structure Run where
  result : Except RunError Plan
  /-- The events logged, of all levels. -/
  events : List Event

namespace RunEvent

/-- All settings are there. -/
def planning (request : PlanRequest) (settings : PlannerSettings)
    (connection : Kafka.Connection) : Event where
  origin := .program
  level := .info
  message := "Planning next cycle"
  fields := [
    ("topic", .text request.topic),
    ("brokers", .text (Text.quotedList connection.servers)),
    ("reset_strategy", .text settings.reset.word)]

/-- The run ends with an error. -/
def failed (text : String) : Event where
  origin := .program
  level := .error
  message := text
  fields := []

end RunEvent

namespace Run

/-- A run that ends with an error, which is the last thing logged. -/
def failed (e : RunError) (events : List Event) : Run :=
  ⟨.error e, events ++ e.debugText?.toList.map RunEvent.failed⟩

/-- The limit of a request. A source that states none takes as much as can be counted. -/
def limit (request : PlanRequest) : Int64 := request.limit.getD Word.greatest

/-- The cycle of a request with a client. -/
def cycle (schedule : Kafka.Schedule) (request : PlanRequest) (settings : PlannerSettings)
    (client : Kafka.Client) : Outcome Kafka.Client Plan :=
  let planner : Planner := ⟨request.topic, settings⟩
  (planner.next (Kafka.Client.broker schedule) request.checkpoint (limit request)).run client

/-- Carries a request out. -/
def ofRequest (schedule : Kafka.Schedule) (request : PlanRequest) (env : Environment)
    (cluster : Kafka.Cluster) : Run :=
  match PlannerSettings.load env with
  | .error e => failed (.settings e) []
  | .ok settings =>
    match Kafka.Connection.load env with
    | .error e => failed (.connection e) []
    | .ok connection =>
      let begun := RunEvent.planning request settings connection :: Kafka.settingsEvents connection
      match Kafka.connect connection cluster with
      | .error e => failed (.client e) begun
      | .ok client =>
        let outcome := cycle schedule request settings client
        match outcome.result with
        | .error e => failed (.cycle e) (begun ++ outcome.events)
        | .ok plan => ⟨.ok plan, begun ++ outcome.events⟩

/-- Carries a command line out. -/
def ofArguments (schedule : Kafka.Schedule) (args : List String) (env : Environment)
    (cluster : Kafka.Cluster) : Run :=
  match PlanRequest.ofArguments args with
  | .error e => failed (.usage e) []
  | .ok request => ofRequest schedule request env cluster

def exitCode (run : Run) : UInt8 :=
  match run.result with
  | .ok _ => 0
  | .error e => e.exitCode

/-- What a run prints: the plan in lines, or nothing. -/
def output (run : Run) : String :=
  match run.result with
  | .ok plan => .ofList (plan.toJson.pretty ++ ['\n'])
  | .error _ => ""

def errorText? (run : Run) : Option String :=
  match run.result with
  | .ok _ => none
  | .error e => e.debugText?

end Run

end LogIntake
