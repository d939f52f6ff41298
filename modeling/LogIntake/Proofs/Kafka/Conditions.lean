import LogIntake.Proofs.Kafka.ServerList
import LogIntake.Proofs.TableWrites
import LogIntake.Proofs.Text.Case
import LogIntake.Proofs.Text.Numeral

/-!
# Valid environments

Settings of a connection are loaded in steps. Each step has its conditions on the environment: it
succeeds if they hold, and otherwise reports the first one that does not. So do several steps one
after the other, and with them the loading as a whole.

## Main definitions

- `Connection.TurnedOn`: an option is turned on.
- `Connection.IsTimeout`: the texts of a timeout.
- `Connection.Condition`: the conditions on an environment.
- `Connection.FirstViolated`: what is reported for the first condition that does not hold.
- `Connection.Checks`: a step looks at some conditions, one after the other.

## Main statements

- `Connection.Checks.bind`: a step and a further one look at the conditions of both.
- `Connection.Checks.exists_ok_iff`, `Connection.Checks.error_iff`: how such a step ends.
- `Connection.load_checks`: the conditions at which the loading looks.
-/

namespace LogIntake.Kafka.Connection

/-- A variable is the word "true" in any ASCII case. -/
def TurnedOn (env : Environment) (name : String) : Prop :=
  ∃ value, env.get? name = some value ∧ AnyCase "true".toList value.toList

variable {α β : Type} {env : Environment} {name : String}

theorem flag_iff : env.flag name = true ↔ TurnedOn env name := by
  rw [Environment.flag, Option.any_eq_true, TurnedOn]
  simp only [turnsOn_iff]

/-! ## Conditions -/

/-- A text is the numeral of a timeout: a number of 64 bits without a minus sign. -/
def IsTimeout (value : String) (millis : UInt64) : Prop :=
  value.toList.head? ≠ some '-' ∧ Decimal.Numeral value.toList millis.toNat

/-- The conditions on an environment. -/
inductive Condition where
  | serversSet
  | serverNamed
  | timeoutReadable
  | usernameSet
  | passwordSet
  | certificatePaired

namespace Condition

/-- The order in which the conditions are looked at. -/
def order : List Condition :=
  [serversSet, serverNamed, timeoutReadable, usernameSet, passwordSet, certificatePaired]

theorem mem_order (condition : Condition) : condition ∈ order := by
  cases condition <;> simp [order]

/-- What the conditions say. -/
def Holds (env : Environment) : Condition → Prop
  | serversSet => env.contains serversVariable = true
  | serverNamed => ∀ list, env.get? serversVariable = some list →
    ∃ places, Text.Places list.toList places ∧ ∃ place ∈ places, ¬ Text.Blanks place
  | timeoutReadable => ∀ value, env.get? timeoutVariable = some value →
    ∃ millis, IsTimeout value millis
  | usernameSet => env.contains mechanismVariable = true → env.contains usernameVariable = true
  | passwordSet => env.contains mechanismVariable = true → env.contains passwordVariable = true
  | certificatePaired => TurnedOn env tlsVariable →
    (env.contains certificateVariable = true ↔ env.contains keyVariable = true)

/-- The error for a condition that does not hold. -/
inductive Reports (env : Environment) : Condition → ConnectionError → Prop
  | serversSet : Reports env serversSet (.unset serversVariable)
  | serverNamed : Reports env serverNamed .noServers
  | timeoutReadable {value : String} {cause : Decimal.ReadError}
    (hvalue : env.get? timeoutVariable = some value)
    (hcause : Decimal.read .unsigned64 value.toList = .error cause) :
    Reports env timeoutReadable (.badTimeout value cause)
  | usernameSet : Reports env usernameSet (.unset usernameVariable)
  | passwordSet : Reports env passwordSet (.unset passwordVariable)
  | certificatePaired : Reports env certificatePaired .unpairedCertificate

theorem Reports.unique {condition : Condition} {e e' : ConnectionError}
    (h : Reports env condition e) (h' : Reports env condition e') : e = e' := by
  cases h with
  | timeoutReadable hvalue hcause =>
    cases h' with
    | timeoutReadable hvalue' hcause' =>
      rw [hvalue] at hvalue'
      cases hvalue'
      rw [hcause] at hcause'
      cases hcause'
      rfl
  | _ => cases h'; rfl

end Condition

/-- The error for the first one of some conditions that does not hold. -/
inductive FirstViolated (env : Environment) : List Condition → ConnectionError → Prop
  | here {condition : Condition} {conditions : List Condition} {e : ConnectionError}
    (h : ¬ condition.Holds env) (hreports : condition.Reports env e) :
    FirstViolated env (condition :: conditions) e
  | later {condition : Condition} {conditions : List Condition} {e : ConnectionError}
    (h : condition.Holds env) (hrest : FirstViolated env conditions e) :
    FirstViolated env (condition :: conditions) e

variable {condition : Condition} {conditions further : List Condition} {e : ConnectionError}

namespace FirstViolated

theorem not_forall_holds (h : FirstViolated env conditions e) :
    ¬ ∀ condition ∈ conditions, condition.Holds env := by
  intro hholds
  induction h with
  | here h _ => exact h (hholds _ List.mem_cons_self)
  | later _ _ ih => exact ih fun condition hmem => hholds condition (List.mem_cons_of_mem _ hmem)

theorem append_right (h : FirstViolated env conditions e) (further : List Condition) :
    FirstViolated env (conditions ++ further) e := by
  induction h with
  | here h hreports => exact .here h hreports
  | later h _ ih => exact .later h ih

theorem append_left (h : FirstViolated env further e)
    (hholds : ∀ condition ∈ conditions, condition.Holds env) :
    FirstViolated env (conditions ++ further) e := by
  induction conditions with
  | nil => exact h
  | cons condition conditions ih =>
    obtain ⟨hhere, hlater⟩ := List.forall_mem_cons.1 hholds
    exact .later hhere (ih hlater)

theorem unique {e' : ConnectionError} (h : FirstViolated env conditions e)
    (h' : FirstViolated env conditions e') : e = e' := by
  induction h with
  | here h hreports =>
    cases h' with
    | here _ hreports' => exact hreports.unique hreports'
    | later hholds _ => exact absurd hholds h
  | later h _ ih =>
    cases h' with
    | here hnot _ => exact absurd h hnot
    | later _ hrest' => exact ih hrest'

end FirstViolated

/-! ## Steps -/

/-- A step looks at some conditions one after the other: if all hold it succeeds, and otherwise it
reports the first one that does not. -/
structure Checks (env : Environment) (conditions : List Condition)
    (step : Except ConnectionError α) : Prop where
  ok : ∀ a, step = .ok a → ∀ condition ∈ conditions, condition.Holds env
  error : ∀ e, step = .error e → FirstViolated env conditions e

namespace Checks

theorem pure (a : α) : Checks env [] (.ok a) := ⟨fun _ _ => nofun, nofun⟩

theorem throw (h : ¬ condition.Holds env) (hreports : condition.Reports env e) :
    Checks env [condition] (.error e : Except ConnectionError α) where
  ok := nofun
  error := by
    rintro _ ⟨⟩
    exact .here h hreports

/-- A condition that holds may be looked at. -/
theorem cons {step : Except ConnectionError α} (hcheck : Checks env conditions step)
    (h : condition.Holds env) : Checks env (condition :: conditions) step where
  ok := fun a ha => List.forall_mem_cons.2 ⟨h, hcheck.ok a ha⟩
  error := fun e he => .later h (hcheck.error e he)

/-- A further step looks at its conditions where those of the first one hold. -/
theorem bind {step : Except ConnectionError α} {next : α → Except ConnectionError β}
    (hstep : Checks env conditions step)
    (hnext : ∀ a, step = .ok a → Checks env further (next a)) :
    Checks env (conditions ++ further) (step >>= next) := by
  cases hresult : step with
  | error e' =>
    refine ⟨nofun, ?_⟩
    rintro _ ⟨⟩
    exact (hstep.error e' hresult).append_right further
  | ok a =>
    have hhere := hstep.ok a hresult
    have hthere := hnext a hresult
    exact ⟨fun b hb => List.forall_mem_append.2 ⟨hhere, hthere.ok b hb⟩,
      fun e he => (hthere.error e he).append_left hhere⟩

variable {step : Except ConnectionError α}

theorem exists_ok_iff (h : Checks env conditions step) :
    (∃ a, step = .ok a) ↔ ∀ condition ∈ conditions, condition.Holds env := by
  constructor
  · rintro ⟨a, ha⟩
    exact h.ok a ha
  · intro hholds
    cases hresult : step with
    | ok a => exact ⟨a, rfl⟩
    | error e => exact absurd hholds (h.error e hresult).not_forall_holds

theorem error_iff (h : Checks env conditions step) :
    step = .error e ↔ FirstViolated env conditions e := by
  constructor
  · exact h.error e
  · intro hviolated
    cases hresult : step with
    | ok a => exact absurd (h.ok a hresult) hviolated.not_forall_holds
    | error e' => rw [hviolated.unique (h.error e' hresult)]

end Checks

/-! ## The steps of loading -/

theorem require_checks (hholds : condition.Holds env ↔ env.contains name = true)
    (hreports : condition.Reports env (.unset name)) :
    Checks env [condition] (require env name) := by
  rw [require]
  cases hget : env.get? name with
  | some value =>
    exact (Checks.pure value).cons (hholds.2 (Table.contains_of_get? hget))
  | none =>
    exact .throw (fun h => Table.get?_eq_none_iff.1 hget (hholds.1 h)) hreports

theorem require_eq_ok_iff {value : String} :
    require env name = .ok value ↔ env.get? name = some value := by
  rw [require]
  cases env.get? name <;> simp

theorem serverNamed_iff {list : String} (hlist : env.get? serversVariable = some list) :
    Condition.serverNamed.Holds env ↔ readServers list ≠ [] := by
  simp only [Condition.Holds, hlist, Option.some.injEq, forall_eq', ne_eq, readServers_eq_nil_iff]
  push Not
  rfl

theorem loadServers_checks : Checks env [.serversSet, .serverNamed] (loadServers env) := by
  refine (require_checks .rfl .serversSet).bind fun list hlist => ?_
  have hnamed := serverNamed_iff (require_eq_ok_iff.1 hlist)
  dsimp only
  split
  next hempty =>
    exact .throw (fun h => hnamed.1 h (List.isEmpty_iff.1 hempty)) .serverNamed
  next hne =>
    exact (Checks.pure _).cons (hnamed.2 fun h => hne (List.isEmpty_iff.2 h))

/-- The numerals that are read as a timeout are those of the numbers that 64 bits hold. -/
theorem exists_read_timeout_iff {value : String} {millis : UInt64} :
    (∃ n, Decimal.read .unsigned64 value.toList = .ok n ∧ UInt64.ofNat n.toNat = millis) ↔
      IsTimeout value millis := by
  simp only [Decimal.read_eq_ok_iff, IsTimeout]
  constructor
  · rintro ⟨n, ⟨hnumeral, ⟨hlo, hhi⟩, hsign⟩, rfl⟩
    have hfits : n.toNat < 2 ^ 64 := by
      simp only [Decimal.Bounds.unsigned64] at hlo hhi
      omega
    rw [UInt64.toNat_ofNat_of_lt' hfits, Int.toNat_of_nonneg hlo]
    exact ⟨fun hminus => absurd (hsign hminus) (by decide), hnumeral⟩
  · rintro ⟨hsign, hnumeral⟩
    have hfits := millis.toNat_lt
    refine ⟨millis.toNat, ⟨hnumeral, ⟨?_, ?_⟩, fun hminus => absurd hminus hsign⟩, ?_⟩
    · exact Int.natCast_nonneg _
    · simp only [Decimal.Bounds.unsigned64]
      omega
    · rw [Int.toNat_natCast, UInt64.ofNat_toNat]

theorem loadTimeout_checks : Checks env [.timeoutReadable] (loadTimeout env) := by
  rw [loadTimeout]
  cases hget : env.get? timeoutVariable with
  | none => exact (Checks.pure _).cons (by simp [Condition.Holds, hget])
  | some value =>
    have hholds : Condition.timeoutReadable.Holds env ↔ ∃ millis, IsTimeout value millis := by
      simp [Condition.Holds, hget]
    dsimp only
    cases hread : Decimal.read .unsigned64 value.toList with
    | ok n => exact (Checks.pure _).cons (hholds.2 ⟨_, exists_read_timeout_iff.1 ⟨n, hread, rfl⟩⟩)
    | error cause =>
      refine .throw (fun h => ?_) (.timeoutReadable hget hread)
      obtain ⟨millis, hmillis⟩ := hholds.1 h
      obtain ⟨n, hn, -⟩ := exists_read_timeout_iff.2 hmillis
      rw [hread] at hn
      cases hn

theorem loadCredentials_checks :
    Checks env [.usernameSet, .passwordSet] (loadCredentials env) := by
  rw [loadCredentials]
  cases hget : env.get? mechanismVariable with
  | none =>
    have hunset : ¬ env.contains mechanismVariable = true := Table.get?_eq_none_iff.1 hget
    have hpassword : Condition.passwordSet.Holds env := fun h => absurd h hunset
    exact ((Checks.pure _).cons hpassword).cons fun h => absurd h hunset
  | some mechanism =>
    have hset : env.contains mechanismVariable = true := Table.contains_of_get? hget
    have husername : Checks env [.usernameSet] (require env usernameVariable) :=
      require_checks (imp_iff_right hset) .usernameSet
    have hpassword : Checks env [.passwordSet] (require env passwordVariable) :=
      require_checks (imp_iff_right hset) .passwordSet
    exact husername.bind fun _ _ => hpassword.bind fun _ _ => .pure _

theorem loadCertificate_checks (hon : TurnedOn env tlsVariable) :
    Checks env [.certificatePaired] (loadCertificate env) := by
  have hholds : Condition.certificatePaired.Holds env ↔
      (env.contains certificateVariable = true ↔ env.contains keyVariable = true) :=
    imp_iff_right hon
  rw [loadCertificate]
  simp only [Table.contains] at hholds
  split
  next hcertificate hkey =>
    exact (Checks.pure _).cons (hholds.2 (by simp [hcertificate, hkey]))
  next hcertificate hkey =>
    exact (Checks.pure _).cons (hholds.2 (by simp [hcertificate, hkey]))
  next hboth hneither =>
    refine .throw (fun h => ?_) .certificatePaired
    have hpaired := hholds.1 h
    cases hcertificate : env.get? certificateVariable <;> cases hkey : env.get? keyVariable <;>
      simp_all

theorem loadTls_checks : Checks env [.certificatePaired] (loadTls env) := by
  rw [loadTls]
  split
  next hon =>
    exact (loadCertificate_checks (flag_iff.1 hon)).bind fun _ _ => .pure _
  next hoff =>
    exact (Checks.pure _).cons fun h => absurd (flag_iff.2 h) hoff

theorem load_checks : Checks env Condition.order (load env) :=
  loadServers_checks.bind fun _ _ => loadTimeout_checks.bind fun _ _ =>
    loadCredentials_checks.bind fun _ _ => loadTls_checks.bind fun _ _ => .pure _

end LogIntake.Kafka.Connection
