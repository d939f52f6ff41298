import LogIntake.Proofs.Allocation.Exact
import LogIntake.Proofs.Cycle.Survey

/-!
# Faults of an allocation

A cycle reports a fault of its allocation only if it has allocated: neither the checkpoint nor the
broker can bring such a fault about, whatever they are like. So a cycle with a budget that is not
negative never complains about its budget.

## Main definitions

- `Session.Spares`: no run of a session ends with an error.

## Main statements

- `planCycle_spares`: a fault of the allocation comes from `allocate`.
- `planCycle_spares_negativeBudget`: a budget that is not negative is no fault.
-/

namespace LogIntake

open Session

variable {σ α β : Type}

namespace Session

/-- No run of the session ends with the error. -/
def Spares (m : Session σ α) (e : CycleError) : Prop := ∀ s, (m.run s).result ≠ .error e

variable {m : Session σ α} {f : α → Session σ β} {e e' : CycleError}

theorem spares_pure (a : α) (e : CycleError) : Spares (pure a : Session σ α) e :=
  fun _ => nofun

theorem spares_fail (h : e' ≠ e) : Spares (fail e' : Session σ α) e := by
  rintro s ⟨⟩
  exact h rfl

theorem spares_emit (event : Event) (e : CycleError) : Spares (emit event : Session σ Unit) e :=
  fun _ => nofun

/-- A call fails for the broker only. -/
theorem spares_call {c : Call} {ask : σ → Reply σ α} (h : ∀ failure, .broker failure ≠ e) :
    Spares (call c ask) e := by
  intro s
  rw [run_call]
  cases (ask s).answer with
  | ok a => exact nofun
  | error failure =>
    rintro ⟨⟩
    exact h failure rfl

theorem spares_ofExcept {ε : Type} {cause : ε → CycleError} {x : Except ε α}
    (h : ∀ fault, x = .error fault → cause fault ≠ e) :
    Spares (ofExcept cause x : Session σ α) e := by
  cases x with
  | ok a => exact spares_pure a e
  | error fault => exact spares_fail (h fault rfl)

theorem Spares.bind (hm : Spares m e) (hf : ∀ a, Spares (f a) e) : Spares (m >>= f) e := by
  intro s
  cases h : (m.run s).result with
  | ok a =>
    rw [run_bind_of_ok h]
    exact hf a _
  | error e' =>
    rw [run_bind_of_error h]
    have hne : e' ≠ e := fun heq => hm s (heq ▸ h)
    rintro ⟨⟩
    exact hne rfl

end Session

/-! ## The stages -/

section Stages

variable (broker : Broker σ) (cause : AllocationError)

theorem askEarliest_spares (asked : PartitionSet) :
    Spares (askEarliest broker asked) (.allocation cause) := spares_call (by simp)

theorem askLatest_spares (asked : PartitionSet) :
    Spares (askLatest broker asked) (.allocation cause) := spares_call (by simp)

theorem requireComplete_spares (which : OffsetKind) (asked : PartitionSet) (answer : OffsetTable) :
    Spares (requireComplete which asked answer : Session σ Unit) (.allocation cause) := by
  rw [requireComplete]
  split
  · exact spares_fail (by simp)
  · exact spares_pure _ _

theorem chooseStarts_spares (settings : PlannerSettings) (checkpoint : Checkpoint)
    (listed : PartitionSet) :
    Spares (chooseStarts broker settings checkpoint listed) (.allocation cause) := by
  rw [chooseStarts]
  split
  · refine Spares.bind ?_ fun starts =>
      (requireComplete_spares cause _ _ _).bind fun _ => spares_pure _ _
    refine (spares_emit _ _).bind fun _ => ?_
    cases settings.reset with
    | earliest => exact askEarliest_spares broker cause listed
    | latest => exact askLatest_spares broker cause listed
  · refine (askEarliest_spares broker cause listed).bind fun earliest =>
      (requireComplete_spares cause _ _ _).bind fun _ => ?_
    split
    · exact (spares_emit _ _).bind fun _ => spares_pure _ _
    · exact spares_pure _ _

theorem startDiscovered_spares (policy : DiscoveredStart) (listed : PartitionSet)
    (known : OffsetTable) :
    Spares (startDiscovered broker policy listed known) (.allocation cause) := by
  unfold startDiscovered
  dsimp only
  split
  · exact spares_pure _ _
  · refine (spares_emit _ _).bind fun _ => ?_
    cases policy with
    | zero => exact spares_pure _ _
    | earliest =>
      exact (askEarliest_spares broker cause _).bind fun earliest =>
        (requireComplete_spares cause _ _ _).bind fun _ => spares_pure _ _

/-- No survey ends with a fault of the allocation. -/
theorem survey_spares (log : String) (settings : PlannerSettings) (checkpoint : Checkpoint) :
    Spares (survey broker log settings checkpoint) (.allocation cause) := by
  have hask : Spares (askPartitions broker log) (.allocation cause) := spares_call (by simp)
  have hrequire : ∀ listed,
      Spares (requireListed log listed : Session σ Unit) (.allocation cause) := fun listed => by
    rw [requireListed]
    split
    · exact spares_fail (by simp)
    · exact spares_pure _ _
  have hwarn : ∀ gone,
      Spares (warnDropped log gone : Session σ Unit) (.allocation cause) := fun gone => by
    rw [warnDropped]
    split
    · exact spares_pure _ _
    · exact spares_emit _ _
  refine hask.bind fun listed => (hrequire listed).bind fun _ => ?_
  refine (chooseStarts_spares broker cause settings checkpoint listed).bind fun known => ?_
  refine (startDiscovered_spares broker cause _ listed known).bind fun starts => ?_
  refine (hwarn _).bind fun _ => (askLatest_spares broker cause listed).bind fun stops => ?_
  exact (requireComplete_spares cause _ _ _).bind fun _ => spares_pure _ _

end Stages

/-! ## Cycles -/

theorem readCheckpoint_ne_allocation {log text : String} (cause : AllocationError) :
    readCheckpoint log text ≠ .error (.allocation cause) := by
  rw [readCheckpoint]
  split
  · simp
  · split
    · simp
    · simp

variable {broker : Broker σ} {log previous : String} {settings : PlannerSettings}
  {budget : Int64}

/-- A cycle that allocates whatever it has found without a fault ends without one. -/
theorem planCycle_spares {cause : AllocationError}
    (h : ∀ starts stops, allocate starts stops budget ≠ .error cause) :
    Spares (planCycle broker log settings previous budget) (.allocation cause) := by
  rw [planCycle_eq_survey]
  refine (spares_ofExcept fun fault hfault => ?_).bind fun checkpoint => ?_
  · rintro rfl
    exact readCheckpoint_ne_allocation cause hfault
  refine (survey_spares broker cause log settings checkpoint).bind fun found => ?_
  refine (spares_ofExcept fun fault hfault => ?_).bind fun allocation => ?_
  · rintro ⟨⟩
    exact h _ _ hfault
  have hencode : Spares (ofExcept .encoding (Checkpoint.ofRanges log allocation.ranges).encode :
      Session σ String) (.allocation cause) := spares_ofExcept (by simp)
  exact (spares_emit _ _).bind fun _ => hencode.bind fun text =>
    (spares_emit _ _).bind fun _ => spares_pure _ _

theorem allocate_ne_negativeBudget (h : 0 ≤ budget) (starts stops : OffsetTable) (b : Int64) :
    allocate starts stops budget ≠ .error (.negativeBudget b) := by
  rw [allocate, if_neg (Int64.not_lt.2 h)]
  split
  · simp
  · cases hbegin : Allocation.begin starts stops.entries with
    | ok lots => simp [Except.map]
    | error fault =>
      rintro ⟨⟩
      by_cases hstarts : ∀ e ∈ stops.entries, starts.startAt e.1 ≤ e.2
      · rw [Allocation.begin_eq_ok hstarts] at hbegin
        cases hbegin
      · obtain ⟨p, start, stop, herror⟩ := Allocation.begin_eq_error hstarts
        rw [hbegin] at herror
        cases herror

/-- No cycle with a budget that is not negative complains about its budget. -/
theorem planCycle_spares_negativeBudget (h : 0 ≤ budget) (b : Int64) :
    Spares (planCycle broker log settings previous budget) (.allocation (.negativeBudget b)) :=
  planCycle_spares fun starts stops => allocate_ne_negativeBudget h starts stops b

end LogIntake
