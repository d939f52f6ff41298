import LogIntake.Proofs.Cycle.Outcomes
import LogIntake.Proofs.Cycle.Provenance

/-!
# The calls of a cycle

A cycle makes at most four calls, each at its place, and what it asks for depends on what it was
told before. It makes no call behind one that failed or that was not answered in full. Nothing is
assumed about the broker.

## Main definitions

- `Session.Makes`: a session makes the calls of a script until it fails.
- `Protocol.calls`: the calls of a cycle that hears the end of its survey.

## Main statements

- `makes_survey`: a survey makes the calls of the protocol.
- `planCycle_follows_protocol`: so does a cycle.
-/

namespace LogIntake

open Session

variable {σ α β : Type}

/-! ## The calls of a session -/

namespace Session

variable {m : Session σ α} {f : α → Session σ β} {s : σ}

theorem exists_calls_bind (m : Session σ α) (f : α → Session σ β) (s : σ) :
    ∃ rest, ((m >>= f).run s).calls = (m.run s).calls ++ rest := by
  cases h : (m.run s).result with
  | error e => exact ⟨[], by rw [run_bind_of_error h, List.append_nil]⟩
  | ok a => exact ⟨_, calls_bind_of_yields ⟨h, rfl⟩⟩

/-- Run from `s`, the session makes the calls of the script in their order until it fails, and all
of them if it has a result. -/
structure Makes (m : Session σ α) (s : σ) (script : List Call) : Prop where
  prefix_calls : (m.run s).calls <+: script
  calls_eq : ∀ a s', Yields m s a s' → (m.run s).calls = script

theorem makes_of_calls_eq {script : List Call} (h : (m.run s).calls = script) :
    Makes m s script :=
  ⟨h ▸ List.prefix_rfl, fun _ _ _ => h⟩

theorem Makes.bind {script rest : List Call} (h : Makes m s script)
    (hf : ∀ a s', Yields m s a s' → Makes (f a) s' rest) : Makes (m >>= f) s (script ++ rest) := by
  cases hresult : (m.run s).result with
  | error e =>
    constructor
    · rw [run_bind_of_error hresult]
      exact h.prefix_calls.trans (List.prefix_append script rest)
    · rintro b s'' ⟨hb, -⟩
      rw [run_bind_of_error hresult] at hb
      cases hb
  | ok a =>
    have hyields : Yields m s a (m.run s).state := ⟨hresult, rfl⟩
    have hrest := hf a _ hyields
    constructor
    · rw [calls_bind_of_yields hyields, h.calls_eq a _ hyields, List.prefix_append_right_inj]
      exact hrest.prefix_calls
    · intro b s'' hb
      obtain ⟨a', s', hyields', hb⟩ := yields_bind_iff.1 hb
      obtain ⟨rfl, rfl⟩ := hyields.unique hyields'
      rw [calls_bind_of_yields hyields, h.calls_eq a _ hyields, hrest.calls_eq b s'' hb]

end Session

/-! ## The protocol -/

instance (checkpoint earliest : OffsetTable) : Decidable (Stale checkpoint earliest) :=
  decidable_of_iff (¬ firstStale? checkpoint earliest = none)
    (by rw [firstStale?_eq_none_iff, Classical.not_not])

namespace Protocol

/-- The partitions that the first answer lists. -/
def listed : List Exchange → PartitionSet
  | .list _ (.ok listed) :: _ => listed
  | _ => .empty

/-- The offsets in the second answer. -/
def opening : List Exchange → OffsetTable
  | _ :: .earliest _ (.ok offsets) :: _ | _ :: .latest _ (.ok offsets) :: _ => offsets
  | _ => .empty

/-- Without a checkpoint the reset strategy says which end of the partitions is asked for. -/
def openingCall (settings : PlannerSettings) (offsets : OffsetTable) (listed : PartitionSet) :
    Call :=
  if offsets.isEmpty ∧ settings.reset = .latest then .latest listed else .earliest listed

/-- As long as the checkpoint is kept, the policy may ask about the partitions that it leaves
out. -/
def discoveryCalls (settings : PlannerSettings) (offsets : OffsetTable) (listed : PartitionSet)
    (opening : OffsetTable) : List Call :=
  if ¬ offsets.isEmpty ∧ ¬ Stale offsets opening ∧ settings.discovered = .earliest ∧
      undecided offsets listed ≠ .empty then
    [.earliest (undecided offsets listed)]
  else []

/-- The calls of a cycle that hears the end of its survey, given what it has heard. -/
def calls (log : String) (settings : PlannerSettings) (offsets : OffsetTable)
    (heard : List Exchange) : List Call :=
  .list log :: openingCall settings offsets (listed heard) ::
    (discoveryCalls settings offsets (listed heard) (opening heard) ++ [.latest (listed heard)])

end Protocol

/-! ## What a survey asks -/

section Calls

variable {broker : Broker σ} {log : String} {settings : PlannerSettings} {checkpoint : Checkpoint}
  {listed : PartitionSet} {known opening : OffsetTable} {s s₁ : σ}

theorem undecided_eq_empty (hcomplete : Complete listed known) :
    undecided known listed = .empty := by
  refine Table.ext_contains fun p => iff_of_false (fun hp => ?_) Bool.false_ne_true
  obtain ⟨hlisted, hnot⟩ := contains_undecided.1 hp
  exact hnot (hcomplete p hlisted)

/-- The second stage asks about the partitions that a checkpoint leaves out. The offsets that take
the place of one leave out none. -/
theorem calls_startDiscovered_of_known (hcomplete : Complete listed opening)
    (hknown : (checkpoint.isEmpty = true ∨ Stale checkpoint.offsets opening) ∧ known = opening ∨
      ¬ (checkpoint.isEmpty = true ∨ Stale checkpoint.offsets opening) ∧
        known = checkpoint.offsets) :
    ((startDiscovered broker settings.discovered listed known).run s).calls =
      Protocol.discoveryCalls settings checkpoint.offsets listed opening := by
  rw [calls_startDiscovered, Protocol.discoveryCalls]
  rcases hknown with ⟨hrestart, rfl⟩ | ⟨hkeep, rfl⟩
  · rw [if_neg fun h => h.2 (undecided_eq_empty hcomplete)]
    refine (if_neg ?_).symm
    rintro ⟨hsome, hfresh, -⟩
    exact hrestart.elim hsome hfresh
  · obtain ⟨hsome, hfresh⟩ := not_or.1 hkeep
    refine if_congr ?_ rfl rfl
    exact ⟨fun h => ⟨hsome, hfresh, h⟩, fun h => h.2.2⟩

/-- If partitions are listed, the opening call is made, whatever comes of it. -/
theorem exists_exchanges_survey (hlist : (broker.list log s).answer = .ok listed)
    (hsome : listed ≠ .empty) :
    ∃ rest, broker.exchanges s ((survey broker log settings checkpoint).run s).calls =
      .list log (.ok listed) ::
        broker.exchange (broker.list log s).state
          (Protocol.openingCall settings checkpoint.offsets listed) :: rest := by
  have hask : broker.exchanges s ((askPartitions broker log).run s).calls =
      [.list log (.ok listed)] := by
    simp [askPartitions, Broker.exchanges, Broker.exchange, hlist]
  have hchoose : ∀ f : OffsetTable → Session σ Survey, ∃ rest,
      broker.exchanges (broker.list log s).state
        ((chooseStarts broker settings checkpoint listed >>= f).run
          (broker.list log s).state).calls =
        broker.exchange (broker.list log s).state
          (Protocol.openingCall settings checkpoint.offsets listed) :: rest := by
    intro f
    obtain ⟨rest, hrest⟩ := exists_calls_bind (chooseStarts broker settings checkpoint listed) f
      (broker.list log s).state
    rw [hrest, calls_chooseStarts]
    exact ⟨_, rfl⟩
  rw [survey, exchanges_bind_of_yields (recorded_askPartitions broker s log)
      (yields_call_iff.2 ⟨hlist, rfl⟩),
    calls_bind_of_silent_left (silent_requireListed log listed)
      ((yields_requireListed_iff (u := ())).2 ⟨hsome, rfl⟩), hask]
  simp only [List.cons_append, List.nil_append, List.cons.injEq, true_and]
  exact hchoose _

/-- A survey makes the calls of the protocol. What it asks for depends on what it has heard, but
only on answers that it had before. -/
theorem makes_survey (broker : Broker σ) (s : σ) (log : String) (settings : PlannerSettings)
    (checkpoint : Checkpoint) :
    Makes (survey broker log settings checkpoint) s
      (Protocol.calls log settings checkpoint.offsets
        (broker.exchanges s ((survey broker log settings checkpoint).run s).calls)) := by
  set heard := broker.exchanges s ((survey broker log settings checkpoint).run s).calls
    with hheard
  have hask : Makes (askPartitions broker log) s [.list log] := makes_of_calls_eq rfl
  refine hask.bind fun listed s₀ hyields => ?_
  obtain ⟨hlist, rfl⟩ := yields_call_iff.1 hyields
  refine (makes_of_calls_eq (silent_requireListed log listed _)).bind fun _ s₀' hyields => ?_
  obtain ⟨hsome, rfl⟩ := yields_requireListed_iff.1 hyields
  obtain ⟨rest, hrest⟩ := exists_exchanges_survey hlist hsome
  have hlisted : Protocol.listed heard = listed := by rw [hheard, hrest]; rfl
  rw [hlisted]
  refine (makes_of_calls_eq (calls_chooseStarts broker _ settings checkpoint listed)).bind
    fun known s₁ hchoose => ?_
  obtain ⟨opening, hexchanges, hcomplete, hknown⟩ := exists_opening_of_chooseStarts hchoose
  have hopening : Protocol.opening heard = opening := by
    rw [calls_chooseStarts] at hexchanges
    have hfirst : broker.exchange _ (Protocol.openingCall settings checkpoint.offsets listed) = _ :=
      (List.cons.inj hexchanges).1
    rw [hheard, hrest, hfirst]
    split <;> rfl
  rw [hopening]
  refine (makes_of_calls_eq (calls_startDiscovered_of_known hcomplete hknown)).bind
    fun starts s₂ _ => ?_
  refine (makes_of_calls_eq (silent_warnDropped log _ _)).bind fun _ s₃ _ => ?_
  refine makes_of_calls_eq (calls_bind_of_silent (fun stops => ?_) s₃)
  exact (silent_requireComplete _ _ _).bind fun _ => silent_pure _

theorem calls_survey_ne_nil (broker : Broker σ) (s : σ) (log : String)
    (settings : PlannerSettings) (checkpoint : Checkpoint) :
    ((survey broker log settings checkpoint).run s).calls ≠ [] := by
  intro hcalls
  have hheeds := heeds_survey broker s log settings checkpoint
  cases hheeds with
  | done found s' hyields =>
    have hall := (makes_survey broker s log settings checkpoint).calls_eq found s' hyields
    rw [hcalls] at hall
    cases hall
  | halted before x hheard =>
    rw [hcalls] at hheard
    exact absurd hheard.symm (by simp [Broker.exchanges])

end Calls

/-! ## What a cycle asks -/

/-- A checkpoint that cannot be read ends a cycle before its first call. -/
theorem run_planCycle_of_error (broker : Broker σ) (s : σ) {log previous : String} {e : CycleError}
    (hread : readCheckpoint log previous = .error e) (settings : PlannerSettings)
    (budget : Int64) :
    (planCycle broker log settings previous budget).run s = ⟨.error e, s, [], []⟩ := by
  have hfail : ((fail e : Session σ Checkpoint).run s).result = .error e := rfl
  rw [planCycle, hread, ofExcept_error, id, run_bind_of_error hfail]
  rfl

/-- A cycle follows its protocol, whatever the broker answers. It makes no call if the checkpoint
cannot be one of this log, and only then. Else its calls are those of the protocol up to the first
one that failed or was not answered in full. Without such a call they are all of them, also where
there is no plan in the end. A failure of the broker is passed on as it is. -/
theorem planCycle_follows_protocol (broker : Broker σ) (s : σ) (log : String)
    (settings : PlannerSettings) (previous : String) (budget : Int64) :
    let outcome := (planCycle broker log settings previous budget).run s
    let heard := broker.exchanges s outcome.calls
    (outcome.calls = [] ↔ Unfit log previous) ∧
    (¬ Unfit log previous → ∃ c, Checkpoint.decode previous = .ok c ∧
      outcome.calls <+: Protocol.calls log settings c.offsets heard ∧
      ((∀ x ∈ heard, x.Usable) → outcome.calls = Protocol.calls log settings c.offsets heard)) ∧
    (∀ before x after, heard = before ++ x :: after → ¬ x.Usable → after = []) ∧
    ∀ x ∈ heard, ∀ f, x.Failed f → outcome.result = .error (.broker f) := by
  intro outcome heard
  rcases readCheckpoint_cases log previous with ⟨hunfit, e, hread, -⟩ | ⟨hfit, c, hread⟩
  · have hcalls : outcome.calls = [] :=
      congrArg Outcome.calls (run_planCycle_of_error broker s hread settings budget)
    have hheard : heard = [] := by
      simp only [heard, hcalls]
      rfl
    refine ⟨iff_of_true hcalls hunfit, fun hfit => absurd hunfit hfit, ?_, ?_⟩
    · intro before x after happend
      rw [hheard] at happend
      exact absurd happend.symm (by simp)
    · rw [hheard]
      exact fun x hx => absurd hx List.not_mem_nil
  · have hheeds := heeds_survey broker s log settings c
    have hmakes := makes_survey broker s log settings c
    have hcalls : outcome.calls = ((survey broker log settings c).run s).calls :=
      calls_planCycle broker s hread settings budget
    have hheard : heard = broker.exchanges s ((survey broker log settings c).run s).calls :=
      congrArg (broker.exchanges s) hcalls
    rw [hheard, hcalls]
    refine ⟨iff_of_false (calls_survey_ne_nil broker s log settings c) hfit, fun _ =>
      ⟨c, readCheckpoint_eq_ok hread, hmakes.prefix_calls, fun husable => ?_⟩,
      fun _ _ _ => hheeds.eq_nil_of_append, ?_⟩
    · obtain ⟨found, s', hyields⟩ := hheeds.exists_yields husable
      exact hmakes.calls_eq found s' hyields
    · intro x hx f hfailed
      have herror := hheeds.result_of_failed hx hfailed
      simp only [outcome, planCycle_eq_survey, hread, ofExcept_ok, pure_bind]
      rw [run_bind_of_error herror]

/-- One broker refuses to tell where partitions start. Another one tells all, but the budget is
negative. -/
theorem planCycle_follows_protocol_orders :
    let settings : PlannerSettings := ⟨100, .latest, .earliest⟩
    let orders := Memory.ofPartitions "orders" (.ofList [(0, (5, 9)), (1, (2, 30))])
    let listed := orders.listed "orders"
    let refused := (planCycle Memory.broker "orders" settings "orders,0:7" 10).run
      { orders with earliestDown := true }
    let spent := (planCycle Memory.broker "orders" settings "orders,0:7" (-1)).run orders
    refused.calls = [.list "orders", .earliest listed] ∧
      refused.result = .error (.broker ⟨.brokerUnavailable, "earliest is down"⟩) ∧
      spent.calls = [.list "orders", .earliest listed, .earliest (.ofList [⟨"orders", 1⟩]),
        .latest listed] ∧
      ∃ e, spent.result = .error (.allocation e) := by
  intro settings orders listed refused spent
  have hrefused : refused.calls = [.list "orders", .earliest listed] := by decide +kernel
  have hspent : spent.calls = [.list "orders", .earliest listed,
      .earliest (.ofList [⟨"orders", 1⟩]), .latest listed] := by decide +kernel
  have herror : spent.result = .error (.allocation (.negativeBudget (-1))) := by decide +kernel
  obtain ⟨-, -, -, hfailed⟩ := planCycle_follows_protocol Memory.broker
    { orders with earliestDown := true } "orders" settings "orders,0:7" 10
  refine ⟨hrefused, hfailed (.earliest listed (.error ⟨.brokerUnavailable, "earliest is down"⟩))
    ?_ _ rfl, hspent, _, herror⟩
  rw [hrefused]
  exact List.mem_cons_of_mem _ List.mem_cons_self

end LogIntake
