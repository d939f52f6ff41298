import LogIntake.Proofs.Kafka.Conditions
import LogIntake.Proofs.Kafka.Properties
import LogIntake.Proofs.Limits

/-!
# Loading the settings of a connection

The environments from which settings can be loaded are the valid ones, and any other is refused
with the first condition that it violates. What is loaded is said here variable by variable.

## Main definitions

- `Connection.Encrypts`: the encryption that an environment asks for.
- `Connection.Describes`: the servers, the timeout and the credentials as well.

## Main statements

- `Connection.describes_of_load`: what is loaded.
- `Connection.load_insert_servers`: the list of the loaded servers may take the place of the one
  they were loaded from.
- `Connection.load_accepts_valid`: what is accepted, what is refused, and what is loaded.
-/

namespace LogIntake.Kafka

/-- An error of the settings is one of configuration, of which no retry can help. -/
theorem ConnectionError.failure_error (e : ConnectionError) :
    e.error = .config e.text ∧ e.error.failure = ⟨.config, e.text⟩ ∧
      e.error.failure.retryable = false :=
  ⟨rfl, rfl, rfl⟩

namespace Connection

/-- What an environment asks for where encryption is turned on. -/
structure Encrypts (env : Environment) (tls : Tls) : Prop where
  insecure : tls.insecure = true ↔ TurnedOn env insecureVariable
  authorities : tls.authorities = env.get? authoritiesVariable
  client : ∀ client, tls.client = some client ↔
    env.get? certificateVariable = some client.certificate ∧
      env.get? keyVariable = some client.key

/-- What an environment asks for, the properties apart. -/
structure Describes (env : Environment) (connection : Connection) : Prop where
  servers : ∃ list, env.get? serversVariable = some list ∧ Lists list connection.servers
  timeout : ∀ value, env.get? timeoutVariable = some value → IsTimeout value connection.timeout
  standardTimeout : env.get? timeoutVariable = none → connection.timeout = standardTimeout
  credentials : ∀ credentials, connection.credentials = some credentials ↔
    env.get? mechanismVariable = some credentials.mechanism ∧
      env.get? usernameVariable = some credentials.username ∧
      env.get? passwordVariable = some credentials.password
  encrypted : connection.tls.isSome = true ↔ TurnedOn env tlsVariable
  tls : ∀ tls, connection.tls = some tls → Encrypts env tls

variable {env : Environment} {connection : Connection}

/-! ## What the steps load -/

theorem loadServers_eq_ok_iff {servers : List String} :
    loadServers env = .ok servers ↔
      ∃ list, env.get? serversVariable = some list ∧ readServers list = servers ∧
        servers ≠ [] := by
  simp only [loadServers, bind_eq_ok_iff, require_eq_ok_iff]
  refine exists_congr fun list => and_congr_right fun _ => ?_
  cases readServers list with
  | nil => simp +contextual
  | cons server rest =>
    rw [List.isEmpty_cons, if_neg Bool.false_ne_true, Except.ok.injEq]
    exact (and_iff_left_of_imp fun h => h ▸ List.cons_ne_nil _ _).symm

theorem loadTimeout_of_some {value : String} {millis : UInt64}
    (hvalue : env.get? timeoutVariable = some value) (h : loadTimeout env = .ok millis) :
    IsTimeout value millis := by
  rw [loadTimeout, hvalue] at h
  dsimp only at h
  split at h
  · cases h
  next n hread =>
    cases h
    exact exists_read_timeout_iff.1 ⟨n, hread, rfl⟩

theorem loadTimeout_of_none {millis : UInt64} (hvalue : env.get? timeoutVariable = none)
    (h : loadTimeout env = .ok millis) : millis = standardTimeout := by
  rw [loadTimeout, hvalue] at h
  cases h
  rfl

theorem loadCredentials_eq_some_iff {loaded : Option Credentials}
    (h : loadCredentials env = .ok loaded) (credentials : Credentials) :
    loaded = some credentials ↔
      env.get? mechanismVariable = some credentials.mechanism ∧
        env.get? usernameVariable = some credentials.username ∧
        env.get? passwordVariable = some credentials.password := by
  rw [loadCredentials] at h
  cases hmechanism : env.get? mechanismVariable with
  | none =>
    rw [hmechanism] at h
    cases h
    simp
  | some mechanism =>
    rw [hmechanism] at h
    obtain ⟨username, husername, h⟩ := bind_eq_ok_iff.1 h
    obtain ⟨password, hpassword, h⟩ := bind_eq_ok_iff.1 h
    cases h
    rw [require_eq_ok_iff.1 husername, require_eq_ok_iff.1 hpassword]
    cases credentials
    simp

theorem loadCertificate_eq_some_iff {loaded : Option ClientCertificate}
    (h : loadCertificate env = .ok loaded) (client : ClientCertificate) :
    loaded = some client ↔
      env.get? certificateVariable = some client.certificate ∧
        env.get? keyVariable = some client.key := by
  rw [loadCertificate] at h
  split at h
  next hcertificate hkey =>
    cases h
    rw [hcertificate, hkey]
    cases client
    simp
  next hcertificate hkey =>
    cases h
    rw [hcertificate]
    simp
  · cases h

theorem loadTls_of_ok {loaded : Option Tls} (h : loadTls env = .ok loaded) :
    (loaded.isSome = true ↔ TurnedOn env tlsVariable) ∧
      ∀ tls, loaded = some tls → Encrypts env tls := by
  rw [loadTls] at h
  split at h
  next hon =>
    obtain ⟨client, hclient, h⟩ := bind_eq_ok_iff.1 h
    cases h
    refine ⟨iff_of_true rfl (flag_iff.1 hon), ?_⟩
    rintro _ ⟨⟩
    exact ⟨flag_iff, rfl, loadCertificate_eq_some_iff hclient⟩
  next hoff =>
    cases h
    refine ⟨iff_of_false Bool.false_ne_true fun hon => hoff (flag_iff.2 hon), ?_⟩
    rintro _ ⟨⟩

/-- The settings, step by step. -/
theorem load_eq_ok_iff :
    load env = .ok connection ↔
      loadServers env = .ok connection.servers ∧ loadTimeout env = .ok connection.timeout ∧
        loadCredentials env = .ok connection.credentials ∧ loadTls env = .ok connection.tls ∧
        readProperties env.entries = connection.properties := by
  constructor
  · intro h
    obtain ⟨servers, hservers, h⟩ := bind_eq_ok_iff.1 h
    obtain ⟨timeout, htimeout, h⟩ := bind_eq_ok_iff.1 h
    obtain ⟨credentials, hcredentials, h⟩ := bind_eq_ok_iff.1 h
    obtain ⟨tls, htls, h⟩ := bind_eq_ok_iff.1 h
    cases h
    exact ⟨hservers, htimeout, hcredentials, htls, rfl⟩
  · rintro ⟨hservers, htimeout, hcredentials, htls, hproperties⟩
    rw [load, hservers, htimeout, hcredentials, htls, hproperties]
    rfl

theorem describes_of_load (h : load env = .ok connection) : Describes env connection := by
  obtain ⟨hservers, htimeout, hcredentials, htls, -⟩ := load_eq_ok_iff.1 h
  obtain ⟨list, hlist, hread, -⟩ := loadServers_eq_ok_iff.1 hservers
  obtain ⟨hencrypted, htls⟩ := loadTls_of_ok htls
  exact ⟨⟨list, hlist, readServers_eq_iff.1 hread⟩, fun _ h => loadTimeout_of_some h htimeout,
    fun h => loadTimeout_of_none h htimeout, loadCredentials_eq_some_iff hcredentials,
    hencrypted, htls⟩

/-! ## Another list of servers -/

/-- The variables of all other settings, the properties apart. -/
def otherVariables : List String :=
  [timeoutVariable, mechanismVariable, usernameVariable, passwordVariable, tlsVariable,
    insecureVariable, authoritiesVariable, certificateVariable, keyVariable]

theorem serversVariable_not_mem : serversVariable ∉ otherVariables := by decide +kernel

/-- The list of servers does not matter for all else that is loaded. -/
theorem load_insert_servers {list : String} (h : load env = .ok connection)
    (hlist : readServers list = connection.servers) :
    load (env.insert serversVariable list) = .ok connection := by
  obtain ⟨hservers, htimeout, hcredentials, htls, hproperties⟩ := load_eq_ok_iff.1 h
  obtain ⟨-, -, -, hne⟩ := loadServers_eq_ok_iff.1 hservers
  have hother : ∀ name ∈ otherVariables,
      (env.insert serversVariable list).get? name = env.get? name := fun name hname =>
    Table.get?_insert_of_ne env (ne_of_mem_of_not_mem hname serversVariable_not_mem) list
  simp only [otherVariables, List.forall_mem_cons] at hother
  obtain ⟨hmillis, hmechanism, husername, hpassword, htlsOn, hinsecure, hauthorities,
    hcertificate, hkey, -⟩ := hother
  refine load_eq_ok_iff.2 ⟨?_, ?_, ?_, ?_, ?_⟩
  · exact loadServers_eq_ok_iff.2 ⟨list, Table.get?_insert_self env _ _, hlist, hne⟩
  · rw [← htimeout, loadTimeout, loadTimeout, hmillis]
  · rw [← hcredentials, loadCredentials, loadCredentials, require, require, require, require,
      hmechanism, husername, hpassword]
  · rw [← htls, loadTls, loadTls, loadCertificate, loadCertificate, Environment.flag,
      Environment.flag, Environment.flag, Environment.flag, htlsOn, hinsecure, hauthorities,
      hcertificate, hkey]
  · rw [← hproperties, readProperties_insert (by decide +kernel)]

/-! ## Loading -/

/-- The valid environments are accepted, all others are refused for the first condition that they
violate, and what is loaded is what the variables ask for. -/
theorem load_accepts_valid (env : Environment) :
    ((∃ connection, load env = .ok connection) ↔
      ∀ condition : Condition, condition.Holds env) ∧
    (∀ e, load env = .error e ↔ FirstViolated env Condition.order e) ∧
    (∀ e, load env = .error e →
      e.error = .config e.text ∧ e.error.failure = ⟨.config, e.text⟩ ∧
        e.error.failure.retryable = false) ∧
    ∀ connection, load env = .ok connection →
      Describes env connection ∧
      load (env.insert serversVariable (String.intercalate "," connection.servers)) =
        .ok connection ∧
      (Distinct env →
        (∀ property value, connection.properties.get? property = some value ↔
          ∃ name, NamesProperty name property ∧ env.get? name = some value) ∧
        connection.properties.keys.Perm (env.keys.filterMap propertyName?) ∧
        ∀ assignments, assignments.Perm env.entries →
          readProperties assignments = connection.properties) := by
  have hchecks : Checks env Condition.order (load env) := load_checks
  refine ⟨?_, fun e => hchecks.error_iff, fun e _ => e.failure_error, fun connection h => ?_⟩
  · rw [hchecks.exists_ok_iff]
    exact ⟨fun h condition => h condition condition.mem_order, fun h condition _ => h condition⟩
  · obtain ⟨hservers, -, -, -, hproperties⟩ := load_eq_ok_iff.1 h
    obtain ⟨list, -, hread, hne⟩ := loadServers_eq_ok_iff.1 hservers
    refine ⟨describes_of_load h, load_insert_servers h (readServers_intercalate hread hne), ?_⟩
    intro hdistinct
    rw [← hproperties]
    exact ⟨fun property value => get?_readProperties hdistinct (.refl _),
      keys_readProperties hdistinct, fun assignments hperm =>
        readProperties_eq_of_perm hdistinct hperm⟩

theorem load_accepts_valid_orders :
    let env : Environment := .ofList [(serversVariable, " kafka-0:9093,, kafka-1:9093"),
      (timeoutVariable, "+1500"), (tlsVariable, "TRUE"),
      ("OFFSETGEN_KAFKA_PROPERTY_CLIENT_ID", "intake"), ("OFFSETGEN_KAFKA_PROPERTY_ACKS", "1")]
    let faulty : Environment := .ofList [(serversVariable, "kafka-0:9093"),
      (timeoutVariable, "soon"), (mechanismVariable, "PLAIN")]
    let connection : Connection := ⟨["kafka-0:9093", "kafka-1:9093"], none,
      some ⟨false, none, none⟩, .ofList [("acks", "1"), ("client.id", "intake")], 1500⟩
    load env = .ok connection ∧ (∀ condition : Condition, condition.Holds env) ∧
      load (env.insert serversVariable "kafka-0:9093,kafka-1:9093") = .ok connection ∧
      readProperties env.entries.reverse = connection.properties ∧
      FirstViolated faulty Condition.order (.badTimeout "soon" .invalidDigit) := by
  intro env faulty connection
  have hload : load env = .ok connection := by decide +kernel
  have hdistinct : Distinct env := distinct_iff.2 (by decide +kernel)
  have hfault : load faulty = .error (.badTimeout "soon" .invalidDigit) := by decide +kernel
  obtain ⟨haccepts, -, -, hloaded⟩ := load_accepts_valid env
  obtain ⟨-, hagain, hproperties⟩ := hloaded connection hload
  obtain ⟨-, -, horder⟩ := hproperties hdistinct
  exact ⟨hload, haccepts.1 ⟨connection, hload⟩, hagain, horder _ env.entries.reverse_perm,
    ((load_accepts_valid faulty).2.1 _).1 hfault⟩

end Connection

end LogIntake.Kafka
