import LogIntake.Proofs.Cycle.Faults
import LogIntake.Proofs.Kafka.Client
import LogIntake.Proofs.Limits
import LogIntake.Proofs.PlanText

/-!
# A run of the program

A run takes four steps, and the first one that fails decides how it ends. Without a fault of the
cluster a run comes to what one cycle of the planner comes to with a broker in memory. How the
client connects and which of its concurrent lookups finish first does not show in the plan.

## Main definitions

- `Prepared`: all steps in front of the cycle have succeeded.
- `FirstFault`: the first step of a run that fails, and its error.
- `Run.rehearsal`: what a run is to come to.
- `Run.Reports`: what a run shows of the end of a cycle.

## Main statements

- `Run.result_ofRequest_eq_error_iff`: the errors of a run.
- `Run.result_cycle`: the cycle of a run is the rehearsed one.
- `Run.ofArguments_refines_planCycle`: what a command line that is accepted comes to.
-/

namespace LogIntake

/-- The settings of the planner and of the connection are loaded, and the client library creates a
client with the settings of the connection. -/
structure Prepared (env : Environment) (cluster : Kafka.Cluster) (settings : PlannerSettings)
    (connection : Kafka.Connection) : Prop where
  settings_eq : PlannerSettings.load env = .ok settings
  connection_eq : Kafka.Connection.load env = .ok connection
  create_eq : cluster.create connection.clientOptions = .ok ()

/-- The first step of a run that fails, with its error. -/
inductive FirstFault (schedule : Kafka.Schedule) (request : PlanRequest) (env : Environment)
    (cluster : Kafka.Cluster) : RunError → Prop
  | settings {cause : SettingsError} (h : PlannerSettings.load env = .error cause) :
    FirstFault schedule request env cluster (.settings cause)
  | connection {settings : PlannerSettings} {cause : Kafka.ConnectionError}
    (hsettings : PlannerSettings.load env = .ok settings)
    (h : Kafka.Connection.load env = .error cause) :
    FirstFault schedule request env cluster (.connection cause)
  | client {settings : PlannerSettings} {connection : Kafka.Connection}
    {cause : Kafka.CreateError} (hsettings : PlannerSettings.load env = .ok settings)
    (hconnection : Kafka.Connection.load env = .ok connection)
    (h : cluster.create connection.clientOptions = .error cause) :
    FirstFault schedule request env cluster
      (.client (.connection connection.serverList cause.text))
  | cycle {settings : PlannerSettings} {connection : Kafka.Connection} {cause : CycleError}
    (hprepared : Prepared env cluster settings connection)
    (h : (Run.cycle schedule request settings ⟨cluster, connection.timeout, [], []⟩).result =
      .error cause) :
    FirstFault schedule request env cluster (.cycle cause)

theorem FirstFault.exitCode_eq_one {schedule : Kafka.Schedule} {request : PlanRequest}
    {env : Environment} {cluster : Kafka.Cluster} {e : RunError}
    (h : FirstFault schedule request env cluster e) : e.exitCode = 1 := by
  cases h <;> rfl

namespace Run

/-- The cycle of a request with the watermarks of a cluster in memory, under the smaller one of the
two limits. -/
def rehearsal (request : PlanRequest) (settings : PlannerSettings) (cluster : Kafka.Cluster) :
    Except CycleError Plan :=
  ((planCycle Memory.broker request.topic settings (request.checkpoint.getD "")
    (min settings.maxEvents (limit request))).run (cluster.memory request.topic)).result

/-- A run shows how a cycle ended: it prints the plan, which can be read again, or it reports the
error. -/
structure Reports (run : Run) (outcome : Except CycleError Plan) : Prop where
  result : run.result = outcome.mapError .cycle
  output : ∀ plan, outcome = .ok plan → run.output = .ofList (plan.toJson.pretty ++ ['\n'])
  recorded : ∀ plan, outcome = .ok plan → plan.RecordedIn run.output.toList
  errorText : ∀ e, outcome = .error e → run.errorText? = some e.failure.debugText

variable {schedule : Kafka.Schedule} {args : List String} {request : PlanRequest}
  {env : Environment} {cluster : Kafka.Cluster} {settings : PlannerSettings}
  {connection : Kafka.Connection} {run : Run} {e : RunError}

/-! ## What is seen of a run -/

theorem reports_of_result {outcome : Except CycleError Plan}
    (h : run.result = outcome.mapError .cycle) : run.Reports outcome where
  result := h
  output := by
    rintro plan rfl
    rw [output, h]
    rfl
  recorded := by
    rintro plan rfl
    obtain ⟨_, events⟩ := run
    obtain rfl : _ = Except.ok plan := h
    exact Plan.recordedIn_of_text (Plan.text_output plan events)
  errorText := by
    rintro e rfl
    rw [errorText?, h]
    rfl

/-- A run without a plan prints nothing, and no plan is printed as nothing. -/
theorem output_eq_empty_iff : run.output = "" ↔ ∃ e, run.result = .error e := by
  rw [output]
  cases run.result with
  | error e => exact ⟨fun _ => ⟨e, rfl⟩, fun _ => rfl⟩
  | ok plan =>
    refine iff_of_false (fun h => ?_) nofun
    have hlist := congrArg String.toList h
    simp at hlist

/-! ## The steps of a run -/

/-- What the steps in front of it have come to does not show in the result of the cycle. -/
theorem result_ofRequest (h : Prepared env cluster settings connection) :
    (ofRequest schedule request env cluster).result =
      (cycle schedule request settings ⟨cluster, connection.timeout, [], []⟩).result.mapError
        .cycle := by
  rw [ofRequest]
  simp only [h.settings_eq, h.connection_eq, Kafka.connect_of_create h.create_eq]
  cases (cycle schedule request settings ⟨cluster, connection.timeout, [], []⟩).result <;> rfl

/-- The errors of a run: the first step that fails decides. -/
theorem result_ofRequest_eq_error_iff :
    (ofRequest schedule request env cluster).result = .error e ↔
      FirstFault schedule request env cluster e := by
  constructor
  · intro h
    cases hsettings : PlannerSettings.load env with
    | error cause =>
      rw [ofRequest, hsettings] at h
      cases h
      exact .settings hsettings
    | ok settings =>
      cases hconnection : Kafka.Connection.load env with
      | error cause =>
        simp only [ofRequest, hsettings, hconnection] at h
        cases h
        exact .connection hsettings hconnection
      | ok connection =>
        cases hclient : cluster.create connection.clientOptions with
        | error cause =>
          simp only [ofRequest, hsettings, hconnection, Kafka.connect_of_refusal hclient] at h
          cases h
          exact .client hsettings hconnection hclient
        | ok created =>
          have hprepared : Prepared env cluster settings connection :=
            ⟨hsettings, hconnection, hclient⟩
          rw [result_ofRequest hprepared] at h
          cases hcycle : (cycle schedule request settings
              ⟨cluster, connection.timeout, [], []⟩).result with
          | error cause =>
            rw [hcycle] at h
            cases h
            exact .cycle hprepared hcycle
          | ok plan =>
            rw [hcycle] at h
            cases h
  · intro h
    cases h with
    | settings h =>
      rw [ofRequest, h]
      rfl
    | connection hsettings h =>
      simp only [ofRequest, hsettings, h]
      rfl
    | client hsettings hconnection h =>
      simp only [ofRequest, hsettings, hconnection, Kafka.connect_of_refusal h]
      rfl
    | cycle hprepared h =>
      rw [result_ofRequest hprepared, h]
      rfl

theorem exitCode_ofRequest_ne_zero_iff :
    (ofRequest schedule request env cluster).exitCode ≠ 0 ↔
      ∃ e, FirstFault schedule request env cluster e := by
  rw [exitCode]
  cases h : (ofRequest schedule request env cluster).result with
  | ok plan =>
    refine iff_of_false (fun hne => hne rfl) ?_
    rintro ⟨e, he⟩
    rw [result_ofRequest_eq_error_iff.2 he] at h
    cases h
  | error e =>
    have he := result_ofRequest_eq_error_iff.1 h
    refine iff_of_true ?_ ⟨e, he⟩
    show e.exitCode ≠ 0
    rw [he.exitCode_eq_one]
    decide

/-! ## The cycle of a run -/

/-- In a cluster without faults the cycle of a run is the rehearsed one, whatever lookups finish
first. -/
theorem result_cycle {client : Kafka.Client} (hclient : client.cluster = cluster)
    (hserves : cluster.Serves request.topic) (hschedule : schedule.Fair) :
    (cycle schedule request settings client).result = rehearsal request settings cluster := by
  have hcluster := (Kafka.Client.shows hserves hschedule).result_planCycle hclient settings
    (request.checkpoint.getD "") (min settings.maxEvents (limit request))
  have hmemory := (Memory.shows request.topic request.topic
    (.tabulate (.ofList (cluster.indices request.topic)) fun i =>
      cluster.ends ⟨request.topic, i⟩)).result_planCycle rfl settings
    (request.checkpoint.getD "") (min settings.maxEvents (limit request))
  exact hcluster.trans hmemory.symm

theorem result_ofRequest_ne_negativeBudget (h : PlanRequest.ofArguments args = .ok request)
    (b : Int64) :
    (ofRequest schedule request env cluster).result ≠
      .error (.cycle (.allocation (.negativeBudget b))) := by
  rw [ne_eq, result_ofRequest_eq_error_iff]
  rintro (_ | _ | _ | ⟨hprepared, hcycle⟩)
  exact planCycle_spares_negativeBudget (budget_nonneg h hprepared.settings_eq) b _ hcycle

/-- What a command line that is accepted comes to, in any environment and with any cluster. The
run fails exactly if one of its steps does, the first one deciding the error, and then and only
then it prints nothing. If the steps in front of the cycle succeed and the cluster serves the
topic, it shows what a cycle with a broker in memory comes to, whatever lookups finish first. It
never complains about its budget. -/
theorem ofArguments_refines_planCycle (schedule : Kafka.Schedule) (env : Environment)
    (cluster : Kafka.Cluster) (h : PlanRequest.ofArguments args = .ok request) :
    (∀ e, (ofArguments schedule args env cluster).result = .error e ↔
        FirstFault schedule request env cluster e) ∧
      ((ofArguments schedule args env cluster).exitCode ≠ 0 ↔
        ∃ e, FirstFault schedule request env cluster e) ∧
      ((ofArguments schedule args env cluster).output = "" ↔
        ∃ e, FirstFault schedule request env cluster e) ∧
      (∀ settings connection, Prepared env cluster settings connection →
        cluster.Serves request.topic → schedule.Fair →
          (ofArguments schedule args env cluster).Reports
            (rehearsal request settings cluster)) ∧
      ∀ b, (ofArguments schedule args env cluster).result ≠
        .error (.cycle (.allocation (.negativeBudget b))) := by
  have hrun : ofArguments schedule args env cluster =
      ofRequest schedule request env cluster := by
    rw [ofArguments, h]
  rw [hrun]
  refine ⟨fun e => result_ofRequest_eq_error_iff, exitCode_ofRequest_ne_zero_iff, ?_, ?_,
    result_ofRequest_ne_negativeBudget h⟩
  · simp only [output_eq_empty_iff, result_ofRequest_eq_error_iff]
  · intro settings connection hprepared hserves hschedule
    refine reports_of_result ?_
    rw [result_ofRequest hprepared, result_cycle rfl hserves hschedule]

/-- The lookups finish in the reverse order. One partition goes on behind its checkpoint, and
another is new. Where the environment sets a property that the client library does not know, there
is no client. -/
theorem ofArguments_refines_planCycle_orders :
    let args := ["plan", "--topic", "orders", "--checkpoint=orders,0:3", "--source-limit", "5"]
    let env : Environment := .ofList [("OFFSETGEN_KAFKA_BROKERS", "k1:9092")]
    let misled := env.insert "OFFSETGEN_KAFKA_PROPERTY_NO_SUCH_NAME" "1"
    let cluster : Kafka.Cluster :=
      ⟨.ofList [("orders", ⟨none, [⟨0, 2, 9, none⟩, ⟨1, 0, 4, none⟩]⟩)], none, false,
        fun options =>
          match options.settings.get? "no.such.name" with
          | some value => .error (.property "No such configuration property" "no.such.name" value)
          | none => .ok ()⟩
    let backward : Kafka.Schedule := fun asked => asked.keys.reverse
    (ofArguments backward args env cluster).Reports
        (.ok ⟨[⟨⟨"orders", 0⟩, 3, 6⟩, ⟨⟨"orders", 1⟩, 0, 2⟩], "orders,0:6,1:2"⟩) ∧
      (ofArguments backward args misled cluster).result = .error (.client (.connection "k1:9092"
        "Client config error: No such configuration property no.such.name 1")) := by
  intro args env misled cluster backward
  let request : PlanRequest := ⟨"orders", some "orders,0:3", some 5⟩
  let connection : Kafka.Connection := ⟨["k1:9092"], none, none, .empty, 5000⟩
  have hrequest : PlanRequest.ofArguments args = .ok request := by decide +kernel
  have hprepared : Prepared env cluster .standard connection :=
    ⟨by decide +kernel, by decide +kernel, by decide +kernel⟩
  have hindices : cluster.indices request.topic = [0, 1] := by decide +kernel
  have hserves : cluster.Serves request.topic := by
    refine ⟨by decide +kernel, fun i hi => ?_⟩
    rw [hindices, List.mem_pair] at hi
    obtain rfl | rfl := hi
    · exact ⟨⟨2, 9⟩, by decide +kernel⟩
    · exact ⟨⟨0, 4⟩, by decide +kernel⟩
  have hschedule : backward.Fair := fun asked => asked.keys.reverse_perm
  have hreports := (ofArguments_refines_planCycle backward env cluster
    hrequest).2.2.2.1 _ _ hprepared hserves hschedule
  have hrehearsal : rehearsal request .standard cluster =
      .ok ⟨[⟨⟨"orders", 0⟩, 3, 6⟩, ⟨⟨"orders", 1⟩, 0, 2⟩], "orders,0:6,1:2"⟩ := by decide +kernel
  rw [hrehearsal] at hreports
  refine ⟨hreports, ((ofArguments_refines_planCycle backward misled cluster hrequest).1 _).2 ?_⟩
  let unknown : Kafka.Connection :=
    { connection with properties := .ofList [("no.such.name", "1")] }
  have hsettings : PlannerSettings.load misled = .ok .standard := by decide +kernel
  have hconnection : Kafka.Connection.load misled = .ok unknown := by decide +kernel
  have hrefused : cluster.create unknown.clientOptions =
      .error (.property "No such configuration property" "no.such.name" "1") := by decide +kernel
  exact .client hsettings hconnection hrefused

end Run

end LogIntake
