import LogIntake.Proofs.Cycle.Assembly
import LogIntake.Proofs.Cycle.Heeding
import LogIntake.Proofs.Cycle.Runs

/-!
# How a cycle ends

The kind of failure tells a caller what went wrong, and so what to do about it. Which kind it is
depends on the checkpoint first, then on the answers of the broker, and at last on the budget, the
offsets and the name of the log. Where none of these is at fault there is a plan.

## Main definitions

- `Broker.Orderly`: a broker that answers only what it is asked, and fails as a broker does.
- `Session.Hinges`: a session that has a result exactly if all answers are usable.
- `Ending`: the four ways in which a cycle can end.

## Main statements

- `Broker.Orderly.hinges_survey`: a survey fails by the broker's fault only.
- `Broker.Orderly.ending_planCycle`: every cycle ends in one of the four ways.
- `Broker.Orderly.planCycle_classified`: which failure is reported.
-/

namespace LogIntake

open Session

variable {σ α : Type}

/-- In the states `fair`, a broker lists only partitions of the log, answers about no partition
that it was not asked for, and fails in no other way than that it is unavailable. -/
structure Broker.Orderly (broker : Broker σ) (fair : σ → Prop) : Prop
    extends broker.Obliging fair where
  log_eq : ∀ log s, fair s → ∀ listed, (broker.list log s).answer = .ok listed →
    ∀ p, listed.contains p = true → p.log = log
  kind_eq : ∀ c s, fair s → ∀ f, (broker.exchange s c).Failed f → f.kind = .brokerUnavailable

/-! ## Sessions that hinge on the broker -/

namespace Session

/-- Run from `s`, the session has a result if all answers are usable, and otherwise it fails by
the broker's fault. -/
def Hinges (broker : Broker σ) (m : Session σ α) (s : σ) : Prop :=
  (∀ x ∈ broker.exchanges s (m.run s).calls, x.Usable) ∧ (∃ a s', Yields m s a s') ∨
    (∃ x ∈ broker.exchanges s (m.run s).calls, ¬ x.Usable) ∧
      ∃ e, (m.run s).result = .error e ∧ e.failure.kind = .brokerUnavailable

end Session

namespace Broker.Orderly

variable {broker : Broker σ} {fair : σ → Prop} {s : σ}

/-- The broker stays fair from call to call. -/
theorem kind_of_failed (h : broker.Orderly fair) (hs : fair s) {calls : List Call} {x : Exchange}
    (hx : x ∈ broker.exchanges s calls) {f : Failure} (hfailed : x.Failed f) :
    f.kind = .brokerUnavailable := by
  induction calls generalizing s with
  | nil => cases hx
  | cons c rest ih =>
    have hafter : fair (broker.after s c) := by
      cases c with
      | list log => exact h.list log s hs
      | earliest asked => exact (h.earliest asked s hs).1
      | latest asked => exact (h.latest asked s hs).1
    rcases List.mem_cons.1 hx with rfl | hx
    · exact h.kind_eq c s hs f hfailed
    · exact ih hafter hx

/-- A survey has a result exactly if all answers are usable. -/
theorem hinges_survey (h : broker.Orderly fair) (hs : fair s) (log : String)
    (settings : PlannerSettings) (checkpoint : Checkpoint) :
    Hinges broker (survey broker log settings checkpoint) s := by
  cases heeds_survey broker s log settings checkpoint with
  | done found s' hyields husable => exact .inl ⟨husable, found, s', hyields⟩
  | halted before x hheard _ hunusable e herror hfailed hkind =>
    have hx : x ∈ broker.exchanges s ((survey broker log settings checkpoint).run s).calls := by
      rw [hheard]
      exact List.mem_append_right _ (List.mem_singleton.2 rfl)
    refine .inr ⟨⟨x, hx, hunusable⟩, e, herror, ?_⟩
    by_cases hany : ∃ f, x.Failed f
    · obtain ⟨f, hf⟩ := hany
      rw [hfailed f hf]
      exact h.kind_of_failed hs hx hf
    · exact hkind (not_exists.1 hany)

end Broker.Orderly

/-! ## The checkpoint -/

/-- The text is not that of a checkpoint, or it is that of another log. Without offsets the name
of the log does not matter. -/
def Unfit (log text : String) : Prop :=
  (∃ e, Checkpoint.decode text = .error e) ∨
    ∃ c, Checkpoint.decode text = .ok c ∧ ¬ c.isEmpty = true ∧ c.log ≠ log

theorem readCheckpoint_cases (log text : String) :
    (Unfit log text ∧ ∃ e, readCheckpoint log text = .error e ∧
      e.failure.kind = .malformedCheckpoint) ∨
    ¬ Unfit log text ∧ ∃ c, readCheckpoint log text = .ok c := by
  rw [readCheckpoint]
  cases hdecode : Checkpoint.decode text with
  | error e => exact .inl ⟨.inl ⟨e, hdecode⟩, _, rfl, rfl⟩
  | ok c =>
    by_cases hother : ! c.isEmpty ∧ c.log ≠ log
    · have hunfit : Unfit log text := .inr ⟨c, hdecode, by simpa using hother.1, hother.2⟩
      exact .inl ⟨hunfit, _, if_pos hother, rfl⟩
    · refine .inr ⟨?_, c, if_neg hother⟩
      rintro (⟨e, herror⟩ | ⟨c', hc', hsome, hlog⟩)
      · rw [hdecode] at herror
        cases herror
      · rw [hdecode] at hc'
        cases hc'
        exact hother ⟨by simpa using hsome, hlog⟩

/-! ## The plan -/

/-- The broker has told all that was asked, and still there is no plan: the budget is negative, a
partition would start behind its end, or the log has a name that no checkpoint can carry. -/
inductive Report.Unplannable (report : Report) (log : String) (settings : PlannerSettings)
    (offsets : OffsetTable) (budget : Int64) : Prop where
  | negativeBudget (h : budget < 0)
  | startPastEnd (p : Partition) (stop : Int64) (hlisted : report.listed.contains p = true)
      (hstop : report.stops.get? p = some stop) (hlt : stop < report.start settings offsets p)
  | missingName (h : log = "")
  | separatorInName (h : ',' ∈ log.toList)

theorem assemblable_iff_not_unplannable {found : Survey} {report : Report} {log : String}
    {settings : PlannerSettings} {offsets : OffsetTable} {budget : Int64}
    (hsome : found.stops ≠ .empty) (hkeys : found.stops.keys = found.listed.keys)
    (hlisted : report.listed = found.listed) (hstops : report.stops = found.stops)
    (hstarts : ∀ p, found.listed.contains p = true →
      found.starts.startAt p = report.start settings offsets p) :
    found.Assemblable log budget ↔ ¬ report.Unplannable log settings offsets budget := by
  rw [← hlisted] at hkeys hstarts
  rw [← hstops] at hkeys hsome
  constructor
  · intro h hunplannable
    cases hunplannable with
    | negativeBudget hbudget => exact Int64.not_lt.2 h.allocatable.budget_nonneg hbudget
    | startPastEnd p stop hp hstop hlt =>
      rw [← hstarts p hp] at hlt
      rw [hstops] at hstop
      exact Int64.not_lt.2 (h.allocatable.start_le_end p stop hstop) hlt
    | missingName hname => exact h.log_ne_empty hname
    | separatorInName hname => exact h.comma_not_mem_log hname
  · intro h
    have hbudget : 0 ≤ budget := Int64.not_lt.1 fun hlt => h (.negativeBudget hlt)
    -- Every partition with an end is listed, so that the report says where it starts.
    have hle : ∀ p stop, report.stops.get? p = some stop → found.starts.startAt p ≤ stop := by
      intro p stop hstop
      have hp : report.listed.contains p = true := by
        rw [Table.contains_iff_mem_keys, ← hkeys, ← Table.contains_iff_mem_keys]
        exact Table.contains_of_get? hstop
      rw [hstarts p hp]
      exact Int64.not_lt.1 fun hlt => h (.startPastEnd p stop hp hstop hlt)
    rw [hstops] at hsome hle
    exact ⟨⟨hbudget, hsome, hle⟩, fun hname => h (.missingName hname),
      fun hname => h (.separatorInName hname)⟩

/-! ## The ways to end -/

/-- The session failed, and its failure is of this kind. -/
def Outcome.FailsAs (outcome : Outcome σ α) (kind : FailureKind) : Prop :=
  ∃ e, outcome.result = .error e ∧ e.failure.kind = kind

/-- The error is none of those that the types admit and no cycle ends with. -/
structure CycleError.Reachable (e : CycleError) : Prop where
  kind_ne_unsupportedResetStrategy : e.failure.kind ≠ .unsupportedResetStrategy
  kind_ne_config : e.failure.kind ≠ .config
  ne_noPartitions : e ≠ .allocation .noPartitions
  ne_foreignPartition : ∀ p log, e ≠ .encoding (.foreignPartition p log)

/-- Only a violated invariant can have a cause that is left out. -/
theorem reachable_of_kind {e : CycleError}
    (hkind : e.failure.kind = .malformedCheckpoint ∨ e.failure.kind = .brokerUnavailable) :
    e.Reachable := by
  constructor
  · intro h
    rw [h] at hkind
    simp at hkind
  · intro h
    rw [h] at hkind
    simp at hkind
  · rintro rfl
    rcases hkind with h | h <;> cases h
  · rintro p log rfl
    rcases hkind with h | h <;> cases h

/-- How a cycle ends that has heard the answers `heard`. -/
inductive Ending (log : String) (settings : PlannerSettings) (previous : String) (budget : Int64)
    (heard : List Exchange) (outcome : Outcome σ Plan) : Prop where
  | unfit (hunfit : Unfit log previous) (hcalls : outcome.calls = []) (hheard : heard = [])
      (hfails : outcome.FailsAs .malformedCheckpoint)
  | unusable (hfit : ¬ Unfit log previous) (hunusable : ∃ x ∈ heard, ¬ x.Usable)
      (hfails : outcome.FailsAs .brokerUnavailable)
  | unplannable (hfit : ¬ Unfit log previous) (husable : ∀ x ∈ heard, x.Usable) (c : Checkpoint)
      (hdecode : Checkpoint.decode previous = .ok c) (report : Report)
      (hheard : heard = report.exchanges log settings c.offsets)
      (hunplannable : report.Unplannable log settings c.offsets budget)
      (hfails : outcome.FailsAs .invariantViolation)
      (hreachable : ∀ e, outcome.result = .error e → e.Reachable)
  | planned (hfit : ¬ Unfit log previous) (husable : ∀ x ∈ heard, x.Usable) (c : Checkpoint)
      (hdecode : Checkpoint.decode previous = .ok c) (report : Report)
      (hheard : heard = report.exchanges log settings c.offsets)
      (hplannable : ¬ report.Unplannable log settings c.offsets budget) (plan : Plan)
      (hplan : outcome.result = .ok plan)

namespace Outcome.FailsAs

variable {outcome : Outcome σ α} {kind kind' : FailureKind}

theorem unique (h : outcome.FailsAs kind) (h' : outcome.FailsAs kind') : kind = kind' := by
  obtain ⟨e, he, rfl⟩ := h
  obtain ⟨e', he', rfl⟩ := h'
  rw [he] at he'
  cases he'
  rfl

theorem not_of_ne (h : outcome.FailsAs kind) (hne : kind ≠ kind') : ¬ outcome.FailsAs kind' :=
  fun h' => hne (h.unique h')

theorem not_of_ok {a : α} (h : outcome.result = .ok a) : ¬ outcome.FailsAs kind := by
  rintro ⟨e, he, -⟩
  rw [h] at he
  cases he

end Outcome.FailsAs

namespace Ending

variable {log previous : String} {settings : PlannerSettings} {budget : Int64}
  {heard : List Exchange} {outcome : Outcome σ Plan}

theorem failsAs_malformedCheckpoint_iff (h : Ending log settings previous budget heard outcome) :
    outcome.FailsAs .malformedCheckpoint ↔ Unfit log previous := by
  cases h with
  | unfit hunfit _ _ hfails => exact iff_of_true hfails hunfit
  | unusable hfit _ hfails => exact iff_of_false (hfails.not_of_ne (by decide)) hfit
  | unplannable hfit _ _ _ _ _ _ hfails =>
    exact iff_of_false (hfails.not_of_ne (by decide)) hfit
  | planned hfit _ _ _ _ _ _ _ hplan => exact iff_of_false (Outcome.FailsAs.not_of_ok hplan) hfit

theorem calls_eq_nil (h : Ending log settings previous budget heard outcome)
    (hunfit : Unfit log previous) : outcome.calls = [] := by
  cases h with
  | unfit _ hcalls => exact hcalls
  | unusable hfit => exact absurd hunfit hfit
  | unplannable hfit => exact absurd hunfit hfit
  | planned hfit => exact absurd hunfit hfit

theorem failsAs_brokerUnavailable_iff (h : Ending log settings previous budget heard outcome) :
    outcome.FailsAs .brokerUnavailable ↔ ∃ x ∈ heard, ¬ x.Usable := by
  have hnone : (∀ x ∈ heard, x.Usable) → ¬ ∃ x ∈ heard, ¬ x.Usable :=
    fun husable ⟨x, hx, hunusable⟩ => hunusable (husable x hx)
  cases h with
  | unfit _ _ hheard hfails =>
    subst hheard
    exact iff_of_false (hfails.not_of_ne (by decide)) (hnone (List.forall_mem_nil _))
  | unusable _ hunusable hfails => exact iff_of_true hfails hunusable
  | unplannable _ husable _ _ _ _ _ hfails =>
    exact iff_of_false (hfails.not_of_ne (by decide)) (hnone husable)
  | planned _ husable _ _ _ _ _ _ hplan =>
    exact iff_of_false (Outcome.FailsAs.not_of_ok hplan) (hnone husable)

/-- When all answers are usable, they and the budget decide between a failure and a plan. -/
theorem exists_report (h : Ending log settings previous budget heard outcome)
    (hfit : ¬ Unfit log previous) (husable : ∀ x ∈ heard, x.Usable) :
    ∃ c report, Checkpoint.decode previous = .ok c ∧
      heard = Report.exchanges report log settings c.offsets ∧
      (outcome.FailsAs .invariantViolation ↔
        report.Unplannable log settings c.offsets budget) ∧
      (¬ report.Unplannable log settings c.offsets budget →
        ∃ plan, outcome.result = .ok plan) := by
  cases h with
  | unfit hunfit => exact absurd hunfit hfit
  | unusable _ hunusable =>
    obtain ⟨x, hx, hnot⟩ := hunusable
    exact absurd (husable x hx) hnot
  | unplannable _ _ c hdecode report hheard hunplannable hfails =>
    exact ⟨c, report, hdecode, hheard, iff_of_true hfails hunplannable,
      fun hplannable => absurd hunplannable hplannable⟩
  | planned _ _ c hdecode report hheard hplannable plan hplan =>
    exact ⟨c, report, hdecode, hheard,
      iff_of_false (Outcome.FailsAs.not_of_ok hplan) hplannable, fun _ => ⟨plan, hplan⟩⟩

theorem reachable (h : Ending log settings previous budget heard outcome) {e : CycleError}
    (he : outcome.result = .error e) : e.Reachable := by
  have hkind : ∀ kind, outcome.FailsAs kind → e.failure.kind = kind := fun kind hfails =>
    Outcome.FailsAs.unique ⟨e, he, rfl⟩ hfails
  cases h with
  | unfit _ _ _ hfails => exact reachable_of_kind (.inl (hkind _ hfails))
  | unusable _ _ hfails => exact reachable_of_kind (.inr (hkind _ hfails))
  | unplannable _ _ _ _ _ _ _ _ hreachable => exact hreachable e he
  | planned _ _ _ _ _ _ _ _ hplan =>
    rw [hplan] at he
    cases he

end Ending

/-! ## A broker in memory -/

/-- As long as no answer is scripted, a broker in memory is orderly. It may be down. -/
theorem Memory.orderly : Memory.broker.Orderly fun m =>
    m.listScript = [] ∧ m.earliestScript = [] ∧ m.latestScript = [] where
  list log m hm := ⟨congrArg List.tail hm.1, Memory.obliging.list log m hm.2⟩
  earliest asked m hm :=
    ⟨⟨hm.1, (Memory.obliging.earliest asked m hm.2).1⟩,
      (Memory.obliging.earliest asked m hm.2).2⟩
  latest asked m hm :=
    ⟨⟨hm.1, (Memory.obliging.latest asked m hm.2).1⟩, (Memory.obliging.latest asked m hm.2).2⟩
  log_eq := by
    rintro log m ⟨hscript, -⟩ listed hlist p hp
    simp only [Memory.broker, hscript] at hlist
    rw [Memory.eq_of_answer hlist] at hp
    exact Memory.log_eq_of_contains_listed hp
  kind_eq := by
    rintro c m ⟨hlist, hearliest, hlatest⟩ f hfailed
    cases c with
    | list log =>
      simp only [Broker.exchange, Memory.broker, hlist] at hfailed
      exact Memory.kind_of_answer hfailed
    | earliest asked =>
      simp only [Broker.exchange, Memory.broker, hearliest] at hfailed
      exact Memory.kind_of_answer hfailed
    | latest asked =>
      simp only [Broker.exchange, Memory.broker, hlatest] at hfailed
      exact Memory.kind_of_answer hfailed

/-! ## The classification -/

section Classification

variable {broker : Broker σ} {fair : σ → Prop} {s s' : σ} {log previous : String}
  {settings : PlannerSettings} {budget : Int64}

theorem Broker.Orderly.log_eq_of_survey (h : broker.Orderly fair) (hs : fair s)
    {checkpoint : Checkpoint} {found : Survey}
    (hyields : Yields (survey broker log settings checkpoint) s found s') :
    ∀ p, found.stops.contains p = true → p.log = log := by
  intro p hp
  have hkeys := (h.keys_of_survey hs hyields).1
  obtain ⟨known, s₁, s₂, hlist, -⟩ := yields_survey_iff.1 hyields
  rw [Table.contains_iff_mem_keys, hkeys, ← Table.contains_iff_mem_keys] at hp
  exact h.log_eq log s hs found.listed hlist p hp

/-- Every cycle ends in one of the four ways. -/
theorem Broker.Orderly.ending_planCycle (h : broker.Orderly fair) (hs : fair s)
    (log : String) (settings : PlannerSettings) (previous : String) (budget : Int64) :
    Ending log settings previous budget
      (broker.exchanges s ((planCycle broker log settings previous budget).run s).calls)
      ((planCycle broker log settings previous budget).run s) := by
  rw [planCycle_eq_survey]
  rcases readCheckpoint_cases log previous with ⟨hunfit, e, hread, hkind⟩ | ⟨hfit, c, hread⟩
  · rw [hread, ofExcept_error]
    exact .unfit hunfit rfl rfl ⟨_, rfl, hkind⟩
  -- All that a cycle hears it hears in its survey; behind that only its own inputs can be at fault.
  rw [hread, ofExcept_ok, pure_bind, calls_bind_of_silent (silent_assemble log budget)]
  rcases h.hinges_survey hs log settings c with
    ⟨husable, found, s', hyields⟩ | ⟨hunusable, e, herror, hkind⟩
  · obtain ⟨report, hlisted, hstops, hheard, hstarts⟩ := exists_report_of_survey hyields
    obtain ⟨hkeys, hsome⟩ := h.keys_of_survey hs hyields
    have hlog := h.log_eq_of_survey hs hyields
    have hplannable : found.Assemblable log budget ↔
        ¬ report.Unplannable log settings c.offsets budget :=
      assemblable_iff_not_unplannable hsome hkeys hlisted hstops (hstarts fair h.toObliging hs)
    have hresult := result_bind_of_yields (f := assemble log budget) hyields
    have hdecode := readCheckpoint_eq_ok hread
    by_cases hassemblable : found.Assemblable log budget
    · obtain ⟨plan, hplan⟩ := exists_yields_assemble hassemblable hlog s'
      exact .planned hfit husable c hdecode report hheard (hplannable.1 hassemblable) plan
        (hresult.trans hplan.1)
    · obtain ⟨e, herror, hkind, hnone, hforeign⟩ :=
        exists_error_of_assemble hassemblable hsome hlog s'
      have herror' := hresult.trans herror
      refine .unplannable hfit husable c hdecode report hheard
        (not_not.1 fun hnot => hassemblable (hplannable.2 hnot)) ⟨e, herror', hkind⟩ ?_
      intro e' he'
      rw [herror'] at he'
      cases he'
      refine ⟨?_, ?_, hnone, hforeign⟩
      · rw [hkind]
        decide
      · rw [hkind]
        decide
  · refine .unusable hfit hunusable ⟨e, ?_, hkind⟩
    rw [run_bind_of_error herror]

/-- What a cycle ends with. It fails for its checkpoint exactly if the text is unfit, and then it
has made no call. Else it fails for its broker, which alone is a reason to try again, exactly if a
call failed, no partition was listed, or an answer left out a partition that was asked for. Else it
fails for a violated invariant exactly if the budget is negative, a listed partition would start
behind its end, or the log has no name that a checkpoint can carry. Else there is a plan. -/
theorem Broker.Orderly.planCycle_classified (h : broker.Orderly fair) (hs : fair s)
    (log : String) (settings : PlannerSettings) (previous : String) (budget : Int64) :
    let outcome := (planCycle broker log settings previous budget).run s
    let heard := broker.exchanges s outcome.calls
    (outcome.FailsAs .malformedCheckpoint ↔ Unfit log previous) ∧
    (Unfit log previous → outcome.calls = []) ∧
    (¬ Unfit log previous →
      (outcome.FailsAs .brokerUnavailable ↔ ∃ x ∈ heard, ¬ x.Usable) ∧
      ((∀ x ∈ heard, x.Usable) → ∃ c report, Checkpoint.decode previous = .ok c ∧
        heard = Report.exchanges report log settings c.offsets ∧
        (outcome.FailsAs .invariantViolation ↔
          report.Unplannable log settings c.offsets budget) ∧
        (¬ report.Unplannable log settings c.offsets budget →
          ∃ plan, outcome.result = .ok plan))) ∧
    ∀ e, outcome.result = .error e →
      e.Reachable ∧ (e.failure.retryable = true ↔ ∃ x ∈ heard, ¬ x.Usable) := by
  intro outcome heard
  have hending : Ending log settings previous budget heard outcome :=
    h.ending_planCycle hs log settings previous budget
  refine ⟨hending.failsAs_malformedCheckpoint_iff, ?_, fun hfit =>
    ⟨hending.failsAs_brokerUnavailable_iff, hending.exists_report hfit⟩, fun e he =>
    ⟨hending.reachable he, ?_⟩⟩
  · intro hunfit
    exact hending.calls_eq_nil hunfit
  · rw [← hending.failsAs_brokerUnavailable_iff, Failure.retryable, decide_eq_true_eq]
    constructor
    · intro hkind
      exact ⟨e, he, hkind⟩
    · intro hfails
      exact Outcome.FailsAs.unique ⟨e, he, rfl⟩ hfails

end Classification

/-- A broker that is down for the last call, and a checkpoint of another log. -/
theorem planCycle_classified_orders :
    let orders := Memory.ofPartitions "orders" (.ofList [(0, (5, 9))])
    let down := { orders with latestDown := true }
    let outcome := (planCycle Memory.broker "orders" .standard "orders,0:7" 10).run down
    outcome.result = .error (.broker ⟨.brokerUnavailable, "end is down"⟩) ∧
      (∃ x ∈ Memory.broker.exchanges down outcome.calls, ¬ x.Usable) ∧
      ((planCycle Memory.broker "orders" .standard "payments,0:7" 10).run orders).calls = [] := by
  intro orders down outcome
  have hdown : outcome.result = .error (.broker ⟨.brokerUnavailable, "end is down"⟩) := by
    decide +kernel
  have hunfit : Unfit "orders" "payments,0:7" := by
    refine .inr ⟨⟨"payments", .ofList [(⟨"payments", 0⟩, 7)]⟩, ?_, ?_, ?_⟩ <;> decide +kernel
  obtain ⟨-, -, -, herror⟩ := Memory.orderly.planCycle_classified (s := down) ⟨rfl, rfl, rfl⟩
    "orders" .standard "orders,0:7" 10
  obtain ⟨-, hcalls, -⟩ := Memory.orderly.planCycle_classified (s := orders) ⟨rfl, rfl, rfl⟩
    "orders" .standard "payments,0:7" 10
  exact ⟨hdown, (herror _ hdown).2.1 rfl, hcalls hunfit⟩

end LogIntake
