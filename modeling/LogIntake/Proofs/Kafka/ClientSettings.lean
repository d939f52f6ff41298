import LogIntake.Kafka.Client
import LogIntake.Proofs.TableWrites

/-!
# The settings that a client gets

What the settings of a connection with a meaning of their own say about a property is written here
as a table by keys. The client gets what they say, and the property as it was given where they say
nothing.

## Main definitions

- `security?`: what authentication and encryption say about a property.
- `Connection.typed?`: what a connection says about a property.

## Main statements

- `security?_of_mem`, `mem_of_security?`: the table says what is written, and nothing else.
- `get?_secure`, `get?_clientSettings`: what a client gets.
- `secure_secure`: putting the same security on top once more changes nothing.
- `connect_congr`: given properties that are overridden do not decide whether there is a client.
- `clientSettings_typed_wins`: all of this, for every connection.
-/

namespace LogIntake.Kafka

/-- What authentication and encryption say about a property. -/
def security? (credentials : Option Credentials) (tls : Option Tls) : String → Option String
  | "security.protocol" =>
    if credentials.isSome then some (if tls.isSome then "SASL_SSL" else "SASL_PLAINTEXT")
    else if tls.isSome then some "SSL" else none
  | "sasl.mechanisms" => credentials.map (·.mechanism)
  | "sasl.username" => credentials.map (·.username)
  | "sasl.password" => credentials.map (·.password)
  | "enable.ssl.certificate.verification" => if tls.any (·.insecure) then some "false" else none
  | "ssl.endpoint.identification.algorithm" => if tls.any (·.insecure) then some "none" else none
  | "ssl.ca.location" => tls.bind (·.authorities)
  | "ssl.certificate.location" => tls.bind fun t => t.client.map (·.certificate)
  | "ssl.key.location" => tls.bind fun t => t.client.map (·.key)
  | _ => none

/-- What a connection says about a property, the given properties apart. -/
def Connection.typed? (connection : Connection) : String → Option String
  | "bootstrap.servers" => some (String.intercalate "," connection.servers)
  | "enable.auto.commit" => some "false"
  | key => security? connection.credentials connection.tls key

variable {credentials : Option Credentials} {tls : Option Tls} {key value : String}

/-! ## The written properties -/

theorem mem_optional_iff {name : String} {o : Option String} :
    (key, value) ∈ (o.toList.map fun v => (name, v)) ↔ key = name ∧ o = some value := by
  rw [List.mem_map]
  constructor
  · rintro ⟨v, hv, ⟨⟩⟩
    exact ⟨rfl, Option.mem_toList.1 hv⟩
  · rintro ⟨rfl, hv⟩
    exact ⟨value, Option.mem_toList.2 hv, rfl⟩

theorem Credentials.mem_properties_iff {c : Credentials} :
    (key, value) ∈ c.properties ↔
      key = "sasl.mechanisms" ∧ value = c.mechanism ∨ key = "sasl.username" ∧ value = c.username ∨
        key = "sasl.password" ∧ value = c.password := by
  simp [properties]

theorem ClientCertificate.mem_properties_iff {c : ClientCertificate} :
    (key, value) ∈ c.properties ↔
      key = "ssl.certificate.location" ∧ value = c.certificate ∨
        key = "ssl.key.location" ∧ value = c.key := by
  simp [properties]

theorem mem_uncheckedProperties_iff :
    (key, value) ∈ uncheckedProperties ↔
      key = "enable.ssl.certificate.verification" ∧ value = "false" ∨
        key = "ssl.endpoint.identification.algorithm" ∧ value = "none" := by
  simp [uncheckedProperties]

theorem Tls.mem_properties_iff {t : Tls} :
    (key, value) ∈ t.properties ↔
      (t.insecure = true ∧ (key, value) ∈ uncheckedProperties ∨
        key = "ssl.ca.location" ∧ t.authorities = some value) ∨
        ∃ c, t.client = some c ∧ (key, value) ∈ c.properties := by
  rw [properties, List.mem_append, List.mem_append, List.mem_flatMap, mem_optional_iff]
  cases t.insecure <;> simp

theorem mem_securityProperties_iff :
    (key, value) ∈ securityProperties credentials tls ↔
      (key = "security.protocol" ∧ protocol? credentials tls = some value ∨
        ∃ c, credentials = some c ∧ (key, value) ∈ c.properties) ∨
        ∃ t, tls = some t ∧ (key, value) ∈ t.properties := by
  rw [securityProperties, List.mem_append, List.mem_append, mem_optional_iff, List.mem_flatMap,
    List.mem_flatMap]
  simp only [Option.mem_toList]

theorem security?_of_mem (h : (key, value) ∈ securityProperties credentials tls) :
    security? credentials tls key = some value := by
  simp only [mem_securityProperties_iff, Credentials.mem_properties_iff, Tls.mem_properties_iff,
    ClientCertificate.mem_properties_iff, mem_uncheckedProperties_iff] at h
  rcases h with (⟨rfl, hp⟩ | ⟨c, rfl, h⟩) | ⟨t, rfl, (⟨hi, h⟩ | ⟨rfl, h⟩) | ⟨c, hc, h⟩⟩
  · rw [← hp]
    cases credentials <;> cases tls <;> rfl
  · rcases h with ⟨rfl, rfl⟩ | ⟨rfl, rfl⟩ | ⟨rfl, rfl⟩ <;> rfl
  · rcases h with ⟨rfl, rfl⟩ | ⟨rfl, rfl⟩ <;> simp [security?, hi]
  · exact h
  · rcases h with ⟨rfl, rfl⟩ | ⟨rfl, rfl⟩ <;> simp [security?, hc]

theorem mem_of_security? (h : security? credentials tls key = some value) :
    (key, value) ∈ securityProperties credentials tls := by
  simp only [mem_securityProperties_iff, Credentials.mem_properties_iff, Tls.mem_properties_iff,
    ClientCertificate.mem_properties_iff, mem_uncheckedProperties_iff]
  -- One case for each key, in the order of the table.
  unfold security? at h
  split at h
  · refine .inl (.inl ⟨rfl, ?_⟩)
    cases credentials <;> cases tls <;> exact h
  · obtain ⟨c, hc, rfl⟩ := Option.map_eq_some_iff.1 h
    exact .inl (.inr ⟨c, hc, .inl ⟨rfl, rfl⟩⟩)
  · obtain ⟨c, hc, rfl⟩ := Option.map_eq_some_iff.1 h
    exact .inl (.inr ⟨c, hc, .inr (.inl ⟨rfl, rfl⟩)⟩)
  · obtain ⟨c, hc, rfl⟩ := Option.map_eq_some_iff.1 h
    exact .inl (.inr ⟨c, hc, .inr (.inr ⟨rfl, rfl⟩)⟩)
  · obtain ⟨hinsecure, ⟨⟩⟩ := Option.ite_none_right_eq_some.1 h
    obtain ⟨t, ht, hi⟩ := (Option.any_eq_true _ _).1 hinsecure
    exact .inr ⟨t, ht, .inl (.inl ⟨hi, .inl ⟨rfl, rfl⟩⟩)⟩
  · obtain ⟨hinsecure, ⟨⟩⟩ := Option.ite_none_right_eq_some.1 h
    obtain ⟨t, ht, hi⟩ := (Option.any_eq_true _ _).1 hinsecure
    exact .inr ⟨t, ht, .inl (.inl ⟨hi, .inr ⟨rfl, rfl⟩⟩)⟩
  · obtain ⟨t, ht, ha⟩ := Option.bind_eq_some_iff.1 h
    exact .inr ⟨t, ht, .inl (.inr ⟨rfl, ha⟩)⟩
  · obtain ⟨t, ht, hclient⟩ := Option.bind_eq_some_iff.1 h
    obtain ⟨c, hc, rfl⟩ := Option.map_eq_some_iff.1 hclient
    exact .inr ⟨t, ht, .inr ⟨c, hc, .inl ⟨rfl, rfl⟩⟩⟩
  · obtain ⟨t, ht, hclient⟩ := Option.bind_eq_some_iff.1 h
    obtain ⟨c, hc, rfl⟩ := Option.map_eq_some_iff.1 hclient
    exact .inr ⟨t, ht, .inr ⟨c, hc, .inr ⟨rfl, rfl⟩⟩⟩
  · cases h

/-! ## What the client gets -/

/-- Security wins over what is set already, and leaves all else as it is. -/
theorem get?_secure (settings : ClientSettings) (credentials : Option Credentials)
    (tls : Option Tls) (key : String) :
    (secure settings credentials tls).get? key =
      (security? credentials tls key).or (settings.get? key) :=
  Table.get?_extend_of_mem_iff settings (fun _ _ => ⟨security?_of_mem, mem_of_security?⟩) key

theorem secure_secure (settings : ClientSettings) (credentials : Option Credentials)
    (tls : Option Tls) :
    secure (secure settings credentials tls) credentials tls =
      secure settings credentials tls := by
  apply Table.ext_get?
  intro key
  rw [get?_secure, get?_secure, ← Option.or_assoc, Option.or_self]

/-- What a connection says wins over the given properties, which stay as they are otherwise. -/
theorem get?_clientSettings (connection : Connection) (key : String) :
    (clientSettings connection).get? key =
      (connection.typed? key).or (connection.properties.get? key) := by
  rw [clientSettings, get?_secure, Table.get?_extend]
  unfold Connection.typed?
  split
  · rfl
  · rfl
  next hservers hcommit =>
    have hnone : List.lookup key [("enable.auto.commit", "false"),
        ("bootstrap.servers", connection.serverList)] = none := by
      simp only [List.lookup_cons, beq_false_of_ne hservers, beq_false_of_ne hcommit]
      rfl
    rw [List.reverse_cons, List.reverse_singleton, List.singleton_append, hnone, Option.none_or]

example :
    (clientSettings ⟨["kafka-0:9093", "kafka-1:9093"], some ⟨"PLAIN", "intake", "secret"⟩,
      some ⟨false, none, none⟩, .ofList [("enable.auto.commit", "true"), ("sasl.password", "old"),
        ("ssl.ca.location", "/certs/ca.pem"), ("client.id", "intake")], 5000⟩).entries =
      [("bootstrap.servers", "kafka-0:9093,kafka-1:9093"), ("client.id", "intake"),
        ("enable.auto.commit", "false"), ("sasl.mechanisms", "PLAIN"),
        ("sasl.password", "secret"), ("sasl.username", "intake"),
        ("security.protocol", "SASL_SSL"), ("ssl.ca.location", "/certs/ca.pem")] := by
  decide +kernel

/-- The client is created from what it gets, so that given properties which the connection overrides
make no difference to it. -/
theorem connect_congr (connection : Connection) (cluster : Cluster)
    {properties : Table String String} (h : ∀ key, connection.typed? key = none →
      properties.get? key = connection.properties.get? key) :
    connect { connection with properties } cluster = connect connection cluster := by
  have hsettings : clientSettings { connection with properties } = clientSettings connection := by
    apply Table.ext_get?
    intro key
    rw [get?_clientSettings, get?_clientSettings]
    change (connection.typed? key).or (properties.get? key) = _
    cases htyped : connection.typed? key with
    | none => rw [h key htyped]
    | some value => rfl
  rw [connect, connect, Connection.clientOptions, Connection.clientOptions, hsettings]
  rfl

/-- What the client of a connection gets, and what security does to any settings. The client is
created from this alone: where the connection overrides a given property, its value does not decide
whether there is a client. -/
theorem clientSettings_typed_wins (connection : Connection) :
    (∀ key, (clientSettings connection).get? key =
      (connection.typed? key).or (connection.properties.get? key)) ∧
    (∀ cluster properties, (∀ key, connection.typed? key = none →
        properties.get? key = connection.properties.get? key) →
      connect { connection with properties } cluster = connect connection cluster) ∧
    ∀ settings credentials tls,
      (∀ key, (secure settings credentials tls).get? key =
        (security? credentials tls key).or (settings.get? key)) ∧
      secure (secure settings credentials tls) credentials tls =
        secure settings credentials tls ∧
      secure settings none none = settings :=
  ⟨get?_clientSettings connection, fun cluster _ => connect_congr connection cluster,
    fun settings credentials tls =>
      ⟨get?_secure settings credentials tls, secure_secure settings credentials tls, rfl⟩⟩

/-- The password that is given as a property is not the one of the credentials, and the library is
not to commit. -/
theorem clientSettings_typed_wins_orders :
    let kept : Table String String := .ofList [("client.id", "intake")]
    let given := kept.extend [("enable.auto.commit", "true"), ("sasl.password", "old")]
    let connection : Connection :=
      ⟨["k1:9092"], some ⟨"PLAIN", "intake", "secret"⟩, none, given, 5000⟩
    (∀ key, connection.typed? key = none → kept.get? key = given.get? key) ∧
      (∀ cluster, connect { connection with properties := kept } cluster =
        connect connection cluster) ∧
      (clientSettings connection).get? "sasl.password" = some "secret" ∧
      (clientSettings connection).get? "client.id" = some "intake" := by
  intro kept given connection
  have hagree : ∀ key, connection.typed? key = none → kept.get? key = given.get? key := by
    intro key htyped
    refine (Table.get?_extend_of_ne kept fun e he hkey => ?_).symm
    simp only [List.mem_cons, List.not_mem_nil, or_false] at he
    obtain rfl | rfl := he <;> subst hkey <;> exact nomatch htyped
  obtain ⟨hget, hconnect, -⟩ := clientSettings_typed_wins connection
  refine ⟨hagree, fun cluster => hconnect cluster kept hagree, ?_, ?_⟩
  · rw [hget]
    rfl
  · rw [hget]
    decide +kernel

end LogIntake.Kafka
