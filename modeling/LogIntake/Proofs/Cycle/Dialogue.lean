import LogIntake.Proofs.Cycle.Survey

/-!
# What a session hears from its broker

A session records the calls that it makes, and a broker answers by its state. The first state and
the record therefore determine what the broker answered and logged during a session, and where
the session left it.

## Main definitions

- `Exchange`: a call with its answer.
- `Broker.exchanges`, `Broker.logged`: what the broker answers and logs when calls are replayed.
- `Session.Recorded`: a session touches the broker by the calls that it records, and passes on
  all that the broker logs.
- `Outcome.Adds`: an event is logged by the session itself.

## Main statements

- `Session.exchanges_bind_of_yields`, `Session.adds_bind_iff`: what a session hears and adds comes
  from its parts.
- `recorded_planCycle`: cycles are recorded.
- `silent_assemble`: behind its survey a cycle makes no calls.
-/

namespace LogIntake

variable {σ α β : Type}

/-! ## Calls and their answers -/

/-- A call with its answer. -/
inductive Exchange where
  | list (log : String) (answer : Except Failure PartitionSet)
  | earliest (asked : PartitionSet) (answer : Except Failure OffsetTable)
  | latest (asked : PartitionSet) (answer : Except Failure OffsetTable)

namespace Broker

variable (broker : Broker σ)

/-- The state in which a call leaves the broker. -/
def after (s : σ) : Call → σ
  | .list log => (broker.list log s).state
  | .earliest asked => (broker.earliest asked s).state
  | .latest asked => (broker.latest asked s).state

def exchange (s : σ) : Call → Exchange
  | .list log => .list log (broker.list log s).answer
  | .earliest asked => .earliest asked (broker.earliest asked s).answer
  | .latest asked => .latest asked (broker.latest asked s).answer

def eventsOf (s : σ) : Call → List Event
  | .list log => (broker.list log s).events
  | .earliest asked => (broker.earliest asked s).events
  | .latest asked => (broker.latest asked s).events

/-- What is answered when calls are made one after the other. -/
def exchanges : σ → List Call → List Exchange
  | _, [] => []
  | s, c :: rest => broker.exchange s c :: exchanges (broker.after s c) rest

/-- What the broker logs when calls are made one after the other. -/
def logged : σ → List Call → List Event
  | _, [] => []
  | s, c :: rest => broker.eventsOf s c ++ logged (broker.after s c) rest

theorem exchanges_append (s : σ) (l l' : List Call) :
    broker.exchanges s (l ++ l') =
      broker.exchanges s l ++ broker.exchanges (l.foldl broker.after s) l' := by
  induction l generalizing s with
  | nil => rfl
  | cons c rest ih => exact congrArg (broker.exchange s c :: ·) (ih (broker.after s c))

theorem logged_append (s : σ) (l l' : List Call) :
    broker.logged s (l ++ l') =
      broker.logged s l ++ broker.logged (l.foldl broker.after s) l' := by
  induction l generalizing s with
  | nil => rfl
  | cons c rest ih =>
    rw [List.cons_append, logged, logged, ih, List.append_assoc]
    rfl

end Broker

/-- The session has logged the event by itself: it occurs more often than the broker logged it. -/
def Outcome.Adds (outcome : Outcome σ α) (broker : Broker σ) (s : σ) (e : Event) : Prop :=
  (broker.logged s outcome.calls).count e < outcome.events.count e

namespace Session

/-- Run from `s`, the session touches the broker only by the calls that it records, and all that
the broker logs is among its events. -/
structure Recorded (broker : Broker σ) (m : Session σ α) (s : σ) : Prop where
  state_eq : (m.run s).state = (m.run s).calls.foldl broker.after s
  count_le : ∀ e, (broker.logged s (m.run s).calls).count e ≤ (m.run s).events.count e

section Recorded

variable {broker : Broker σ} {m : Session σ α} {f : α → Session σ β} {s s' : σ} {a : α}

theorem recorded_pure (a : α) : Recorded broker (pure a : Session σ α) s :=
  ⟨rfl, fun _ => Nat.le_refl _⟩

theorem recorded_fail (e : CycleError) : Recorded broker (fail e : Session σ α) s :=
  ⟨rfl, fun _ => Nat.le_refl _⟩

theorem recorded_emit (event : Event) : Recorded broker (emit event : Session σ Unit) s :=
  ⟨rfl, fun _ => Nat.zero_le _⟩

theorem exchanges_bind_of_yields (hm : Recorded broker m s) (h : Yields m s a s') :
    broker.exchanges s ((m >>= f).run s).calls =
      broker.exchanges s (m.run s).calls ++ broker.exchanges s' ((f a).run s').calls := by
  rw [calls_bind_of_yields h, Broker.exchanges_append, ← hm.state_eq, h.2]

theorem logged_bind_of_yields (hm : Recorded broker m s) (h : Yields m s a s') :
    broker.logged s ((m >>= f).run s).calls =
      broker.logged s (m.run s).calls ++ broker.logged s' ((f a).run s').calls := by
  rw [calls_bind_of_yields h, Broker.logged_append, ← hm.state_eq, h.2]

theorem Recorded.bind (hm : Recorded broker m s)
    (hf : ∀ a s', Yields m s a s' → Recorded broker (f a) s') : Recorded broker (m >>= f) s := by
  cases h : (m.run s).result with
  | error e =>
    constructor
    · rw [run_bind_of_error h]
      exact hm.state_eq
    · rw [run_bind_of_error h]
      exact hm.count_le
  | ok a =>
    have hyields : Yields m s a (m.run s).state := ⟨h, rfl⟩
    have hrest := hf a _ hyields
    constructor
    · rw [run_bind_of_ok h, List.foldl_append, ← hm.state_eq]
      exact hrest.state_eq
    · intro e
      rw [logged_bind_of_yields hm hyields, run_bind_of_ok h, List.count_append, List.count_append]
      exact Nat.add_le_add (hm.count_le e) (hrest.count_le e)

theorem adds_bind_iff (hm : Recorded broker m s) (h : Yields m s a s')
    (hf : Recorded broker (f a) s') {e : Event} :
    ((m >>= f).run s).Adds broker s e ↔
      (m.run s).Adds broker s e ∨ ((f a).run s').Adds broker s' e := by
  have hfirst := hm.count_le e
  have hsecond := hf.count_le e
  have hevents : ((m >>= f).run s).events = (m.run s).events ++ ((f a).run s').events := by
    rw [run_bind_of_ok h.1, h.2]
  -- No part has an event less often than the broker logged it, so what is left over in the whole
  -- is left over in a part.
  simp only [Outcome.Adds, logged_bind_of_yields hm h, hevents, List.count_append]
  omega

end Recorded

/-! ## Sessions that make no calls -/

/-- The session makes no calls. -/
def Silent (m : Session σ α) : Prop := ∀ s, (m.run s).calls = []

theorem silent_pure (a : α) : Silent (pure a : Session σ α) := fun _ => rfl

theorem silent_fail (e : CycleError) : Silent (fail e : Session σ α) := fun _ => rfl

theorem silent_emit (event : Event) : Silent (emit event : Session σ Unit) := fun _ => rfl

theorem silent_ofExcept {ε : Type} (cause : ε → CycleError) (x : Except ε α) :
    Silent (ofExcept cause x : Session σ α) := by
  cases x with
  | ok a => exact silent_pure a
  | error e => exact silent_fail _

theorem calls_bind_of_silent {m : Session σ α} {f : α → Session σ β} (hf : ∀ a, Silent (f a))
    (s : σ) : ((m >>= f).run s).calls = (m.run s).calls := by
  cases h : (m.run s).result with
  | error e => rw [run_bind_of_error h]
  | ok a => rw [run_bind_of_ok h, hf a, List.append_nil]

theorem Silent.bind {m : Session σ α} {f : α → Session σ β} (hm : Silent m)
    (hf : ∀ a, Silent (f a)) : Silent (m >>= f) := by
  intro s
  rw [calls_bind_of_silent hf, hm s]

/-- Behind a silent session the record begins with what comes next. -/
theorem calls_bind_of_silent_left {m : Session σ α} {f : α → Session σ β} {s s' : σ} {a : α}
    (hm : Silent m) (h : Yields m s a s') : ((m >>= f).run s).calls = ((f a).run s').calls := by
  rw [calls_bind_of_yields h, hm s, List.nil_append]

end Session

open Session

/-! ## Cycles are recorded -/

section Recorded

variable (broker : Broker σ) (s : σ)

theorem recorded_askPartitions (log : String) : Recorded broker (askPartitions broker log) s :=
  ⟨rfl, fun e => by simp [askPartitions, Broker.logged, Broker.eventsOf]⟩

theorem recorded_askEarliest (asked : PartitionSet) :
    Recorded broker (askEarliest broker asked) s :=
  ⟨rfl, fun e => by simp [askEarliest, Broker.logged, Broker.eventsOf]⟩

theorem recorded_askLatest (asked : PartitionSet) :
    Recorded broker (askLatest broker asked) s :=
  ⟨rfl, fun e => by simp [askLatest, Broker.logged, Broker.eventsOf]⟩

theorem recorded_ofExcept {ε : Type} (cause : ε → CycleError) (x : Except ε α) :
    Recorded broker (ofExcept cause x : Session σ α) s := by
  cases x with
  | ok a => exact recorded_pure a
  | error e => exact recorded_fail _

theorem recorded_requireListed (log : String) (listed : PartitionSet) :
    Recorded broker (requireListed log listed) s := by
  rw [requireListed]
  split
  · exact recorded_fail _
  · exact recorded_pure _

theorem recorded_requireComplete (which : OffsetKind) (asked : PartitionSet)
    (answer : OffsetTable) : Recorded broker (requireComplete which asked answer) s := by
  rw [requireComplete]
  split
  · exact recorded_fail _
  · exact recorded_pure _

theorem recorded_warnDropped (log : String) (partitions : List Partition) :
    Recorded broker (warnDropped log partitions) s := by
  rw [warnDropped]
  split
  · exact recorded_pure _
  · exact recorded_emit _

theorem recorded_resolveStarts (reset : ResetStrategy) (listed : PartitionSet) :
    Recorded broker (resolveStarts broker reset listed) s := by
  refine (recorded_emit _).bind fun _ s₁ _ => ?_
  cases reset with
  | earliest => exact recorded_askEarliest broker s₁ listed
  | latest => exact recorded_askLatest broker s₁ listed

theorem recorded_validateStarts (checkpoint : OffsetTable) (listed : PartitionSet) :
    Recorded broker (validateStarts broker checkpoint listed) s := by
  refine (recorded_askEarliest broker s listed).bind fun earliest s₁ _ => ?_
  refine (recorded_requireComplete broker s₁ _ listed earliest).bind fun _ s₂ _ => ?_
  split
  · exact (recorded_emit _).bind fun _ _ _ => recorded_pure _
  · exact recorded_pure _

theorem recorded_chooseStarts (settings : PlannerSettings) (checkpoint : Checkpoint)
    (listed : PartitionSet) :
    Recorded broker (chooseStarts broker settings checkpoint listed) s := by
  rw [chooseStarts]
  split
  · refine (recorded_resolveStarts broker s settings.reset listed).bind fun starts s₁ _ => ?_
    exact (recorded_requireComplete broker s₁ _ listed starts).bind fun _ _ _ => recorded_pure _
  · exact recorded_validateStarts broker s checkpoint.offsets listed

theorem recorded_startDiscovered (policy : DiscoveredStart) (listed : PartitionSet)
    (known : OffsetTable) : Recorded broker (startDiscovered broker policy listed known) s := by
  unfold startDiscovered
  generalize undecided known listed = found
  by_cases hempty : found.isEmpty = true
  · rw [if_pos hempty]
    exact recorded_pure _
  · rw [if_neg hempty]
    refine (recorded_emit _).bind fun _ s₁ _ => ?_
    cases policy with
    | zero => exact recorded_pure _
    | earliest =>
      refine (recorded_askEarliest broker s₁ _).bind fun earliest s₂ _ => ?_
      exact (recorded_requireComplete broker s₂ _ _ earliest).bind fun _ _ _ => recorded_pure _

theorem recorded_survey (log : String) (settings : PlannerSettings) (checkpoint : Checkpoint) :
    Recorded broker (survey broker log settings checkpoint) s := by
  refine (recorded_askPartitions broker s log).bind fun listed s₁ _ => ?_
  refine (recorded_requireListed broker s₁ log listed).bind fun _ s₂ _ => ?_
  refine (recorded_chooseStarts broker s₂ settings checkpoint listed).bind fun known s₃ _ => ?_
  refine (recorded_startDiscovered broker s₃ settings.discovered listed known).bind
    fun starts s₄ _ => ?_
  refine (recorded_warnDropped broker s₄ log _).bind fun _ s₅ _ => ?_
  refine (recorded_askLatest broker s₅ listed).bind fun stops s₆ _ => ?_
  exact (recorded_requireComplete broker s₆ _ listed stops).bind fun _ _ _ => recorded_pure _

theorem recorded_assemble (log : String) (budget : Int64) (found : Survey) :
    Recorded broker (assemble log budget found) s := by
  refine (recorded_ofExcept broker s _ _).bind fun allocation _ _ => ?_
  refine (recorded_emit _).bind fun _ s₁ _ => ?_
  refine (recorded_ofExcept broker s₁ _ _).bind fun text _ _ => ?_
  exact (recorded_emit _).bind fun _ _ _ => recorded_pure _

/-- Replaying the calls of a cycle gives what the broker answered and logged, and leads to the state
in which the cycle has left it. -/
theorem recorded_planCycle (log : String) (settings : PlannerSettings) (previous : String)
    (budget : Int64) : Recorded broker (planCycle broker log settings previous budget) s := by
  rw [planCycle_eq_survey]
  refine (recorded_ofExcept broker s _ _).bind fun checkpoint s₁ _ => ?_
  refine (recorded_survey broker s₁ log settings checkpoint).bind fun found s₂ _ => ?_
  exact recorded_assemble broker s₂ log budget found

end Recorded

theorem silent_assemble (log : String) (budget : Int64) (found : Survey) :
    Silent (assemble log budget found : Session σ Plan) := by
  refine (silent_ofExcept _ _).bind fun allocation => ?_
  refine (silent_emit _).bind fun _ => ?_
  refine (silent_ofExcept _ _).bind fun text => ?_
  exact (silent_emit _).bind fun _ => silent_pure _

end LogIntake
