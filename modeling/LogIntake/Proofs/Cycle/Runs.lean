import LogIntake.Proofs.Broker.Memory
import LogIntake.Proofs.Cycle.Resumption
import Mathlib.Data.List.Chain

/-!
# Runs of cycles

Cycles are run one after the other, each behind the checkpoint of the last one that came to a plan.
In between the broker may change in any way, and any cycle may fail. Nothing is lost or planned
twice, except where the broker has deleted records that were still to be read.

## Main definitions

- `Planner.runTurns`: a run of any length.
- `successes`: the cycles of a run that came to a plan.
- `Follows`: what holds between one success and the next.
- `timesPlanned`: how often a run plans to read a record.

## Main statements

- `timesPlanned_eq`: where ranges join, each record between their ends is planned once.
- `Planner.isChain_successes`: each success follows the one before.
- `Planner.eq_withReset_of_runTurns`: behind a plan the reset strategy has no say.
-/

namespace LogIntake

variable {σ : Type}

/-! ## Turns -/

/-- What a source asks of a planner. -/
inductive Request where
  | plan (budget : Int64)
  | next (limit : Int64)

/-- A cycle to run, with the state in which it meets the broker. -/
structure Turn (σ : Type) where
  state : σ
  request : Request

/-- A cycle that was run. -/
structure Served (σ : Type) where
  turn : Turn σ
  outcome : Outcome σ Plan

/-- A cycle that came to a plan. -/
structure Success (σ : Type) where
  state : σ
  calls : List Call
  plan : Plan

namespace Planner

/-- The cycle of a request behind a checkpoint. -/
def serve (planner : Planner) (broker : Broker σ) (previous : Option String) :
    Request → Session σ Plan
  | .plan budget => planner.plan broker (previous.getD "") budget
  | .next limit => planner.next broker previous limit

/-- The checkpoint of the last plan. A cycle that failed leaves the one before. -/
def carry (previous : Option String) (outcome : Outcome σ Plan) : Option String :=
  match outcome.result with
  | .ok plan => some plan.checkpoint
  | .error _ => previous

/-- A run of cycles, each behind the checkpoint of the last plan. -/
def runTurns (planner : Planner) (broker : Broker σ) :
    Option String → List (Turn σ) → List (Served σ)
  | _, [] => []
  | previous, turn :: rest =>
    let outcome := (planner.serve broker previous turn.request).run turn.state
    ⟨turn, outcome⟩ :: runTurns planner broker (carry previous outcome) rest

/-- The same planner with another reset strategy. -/
def withReset (planner : Planner) (reset : ResetStrategy) : Planner :=
  { planner with settings := { planner.settings with reset } }

end Planner

/-- The plan of a cycle, if it has one, and what the cycle has seen. -/
def Served.success? (served : Served σ) : Option (Success σ) :=
  match served.outcome.result with
  | .ok plan => some ⟨served.turn.state, served.outcome.calls, plan⟩
  | .error _ => none

/-- The cycles of a run that came to a plan. -/
def successes (run : List (Served σ)) : List (Success σ) := run.filterMap Served.success?

/-! ## What holds between successes -/

/-- The plan of `b` resumes that of `a`, in view of what the broker reports to `b` when asked. -/
def Follows (broker : Broker σ) (log : String) (a b : Success σ) : Prop :=
  ∃ listed earliest, broker.Reports log b.state listed earliest ∧
    [.list log, .earliest listed] <+: b.calls ∧ a.plan.ResumedBy b.plan listed earliest

/-- When `b` is run, records behind the ranges of `a` are no longer kept. -/
def Overtakes (broker : Broker σ) (log : String) (a b : Success σ) : Prop :=
  ∃ listed earliest, broker.Reports log b.state listed earliest ∧ a.plan.Overtaken listed earliest

/-- The record of `p` at this offset is in the range. -/
def OffsetRange.covers (r : OffsetRange) (p : Partition) (offset : Int64) : Bool :=
  r.partition = p ∧ r.start ≤ offset ∧ offset < r.stop

/-- How often the record of `p` at this offset is planned to be read. -/
def timesPlanned (stretch : List (Success σ)) (p : Partition) (offset : Int64) : Nat :=
  (stretch.flatMap (·.plan.ranges)).countP (·.covers p offset)

/-- The range of `p` in `b`, if there is one, starts where that in `a` stops. -/
def Joined (p : Partition) (a b : Success σ) : Prop :=
  ∀ r ∈ a.plan.ranges, ∀ r' ∈ b.plan.ranges, r.partition = p → r'.partition = p → r'.start = r.stop

theorem joined_of_follows {broker : Broker σ} {log : String} {a b : Success σ}
    (hfollows : Follows broker log a b) (hkept : ¬ Overtakes broker log a b) (p : Partition) :
    Joined p a b := by
  obtain ⟨listed, earliest, hreports, -, hresumed⟩ := hfollows
  intro r hr r' hr' hp hp'
  refine hresumed.continued ?_ r hr r' hr' (hp'.trans hp.symm)
  intro hovertaken
  exact hkept ⟨listed, earliest, hreports, hovertaken⟩

/-! ## Counting -/

theorem countP_covers {ranges : List OffsetRange} (hnodup : (ranges.map (·.partition)).Nodup)
    {r : OffsetRange} (hr : r ∈ ranges) (offset : Int64) :
    ranges.countP (·.covers r.partition offset) =
      if r.start ≤ offset ∧ offset < r.stop then 1 else 0 := by
  induction ranges with
  | nil => cases hr
  | cons e rest ih =>
    obtain ⟨hhead, htail⟩ := List.nodup_cons.1 hnodup
    rw [List.countP_cons]
    rcases List.mem_cons.1 hr with rfl | hr
    · -- The partition of the head occurs in no other range.
      have hnone : rest.countP (·.covers r.partition offset) = 0 := by
        rw [List.countP_eq_zero]
        intro r' hr' hcovers
        have heq : r'.partition = r.partition := (of_decide_eq_true hcovers).1
        exact hhead (List.mem_map.2 ⟨r', hr', heq⟩)
      rw [hnone]
      simp [OffsetRange.covers]
    · have hne : e.partition ≠ r.partition := fun heq =>
        hhead (List.mem_map.2 ⟨r, hr, heq.symm⟩)
      rw [ih htail hr]
      simp [OffsetRange.covers, hne]

/-- Where the ranges of a partition join, each record between the two ends is planned once, and no
other is planned at all. -/
theorem timesPlanned_eq {p : Partition} {log : String} {a b : Success σ}
    {stretch : List (Success σ)} (hhead : stretch.head? = some a)
    (hlast : stretch.getLast? = some b) (hjoined : stretch.IsChain (Joined p))
    (hresumable : ∀ c ∈ stretch, c.plan.Resumable log)
    (hlisted : ∀ c ∈ stretch, p ∈ c.plan.ranges.map (·.partition)) {first last : OffsetRange}
    (hfirst : first ∈ a.plan.ranges) (hfirstp : first.partition = p)
    (hlastr : last ∈ b.plan.ranges) (hlastp : last.partition = p) (offset : Int64) :
    first.start ≤ last.stop ∧ timesPlanned stretch p offset =
      if first.start ≤ offset ∧ offset < last.stop then 1 else 0 := by
  induction stretch generalizing a first with
  | nil => cases hhead
  | cons c rest ih =>
    cases hhead
    have ha := hresumable c List.mem_cons_self
    have hle := ha.start_le_stop first hfirst
    have hcount : timesPlanned (c :: rest) p offset =
        (if first.start ≤ offset ∧ offset < first.stop then 1 else 0) +
          timesPlanned rest p offset := by
      rw [timesPlanned, List.flatMap_cons, List.countP_append, ← hfirstp,
        countP_covers ha.partitions_nodup hfirst]
      rfl
    cases rest with
    | nil =>
      cases hlast
      obtain rfl := ha.eq_of_partition_eq hfirst hlastr (hfirstp.trans hlastp.symm)
      exact ⟨hle, hcount⟩
    | cons d rest =>
      obtain ⟨hjoin, hjoined'⟩ := List.isChain_cons_cons.1 hjoined
      obtain ⟨r, hr, hrp⟩ := List.mem_map.1 (hlisted d (by simp))
      obtain ⟨hle', hrest⟩ := ih rfl (by simpa using hlast) hjoined'
        (fun e he => hresumable e (List.mem_cons_of_mem c he))
        (fun e he => hlisted e (List.mem_cons_of_mem c he)) hr hrp
      have hstart := hjoin first hfirst r hr hfirstp hrp
      -- The first range ends where the others begin, so the two intervals are one.
      rw [hstart] at hle' hrest
      refine ⟨Int64.le_trans hle hle', ?_⟩
      rw [hcount, hrest]
      simp only [Int64.le_iff_toInt_le, Int64.lt_iff_toInt_lt] at *
      split <;> split <;> split <;> omega

/-! ## Runs -/

theorem successes_cons_of_ok {served : Served σ} {plan : Plan}
    (h : served.outcome.result = .ok plan) (rest : List (Served σ)) :
    successes (served :: rest) =
      ⟨served.turn.state, served.outcome.calls, plan⟩ :: successes rest := by
  have hsome : served.success? = some ⟨served.turn.state, served.outcome.calls, plan⟩ := by
    simp [Served.success?, h]
  rw [successes, List.filterMap_cons, hsome]
  rfl

theorem successes_cons_of_error {served : Served σ} {e : CycleError}
    (h : served.outcome.result = .error e) (rest : List (Served σ)) :
    successes (served :: rest) = successes rest := by
  have hnone : served.success? = none := by
    simp [Served.success?, h]
  rw [successes, List.filterMap_cons, hnone]
  rfl

namespace Planner

variable {planner : Planner} {broker : Broker σ} {fair : σ → Prop} {previous : Option String}
  {turns : List (Turn σ)}

theorem exists_serve_eq (planner : Planner) (broker : Broker σ) (previous : Option String)
    (request : Request) :
    ∃ budget, planner.serve broker previous request =
      planCycle broker planner.log planner.settings (previous.getD "") budget := by
  cases request with
  | plan budget => exact ⟨budget, rfl⟩
  | next limit => exact ⟨planner.budget limit, rfl⟩

theorem resumable_of_serve (h : broker.Obliging fair) {turn : Turn σ} (hturn : fair turn.state)
    {plan : Plan}
    (hplan : ((planner.serve broker previous turn.request).run turn.state).result = .ok plan) :
    plan.Resumable planner.log := by
  obtain ⟨budget, hserve⟩ := exists_serve_eq planner broker previous turn.request
  rw [hserve] at hplan
  exact (resumable_of_planCycle h hturn hplan).1

theorem follows_of_serve (h : broker.Obliging fair) {a : Success σ}
    (ha : a.plan.Resumable planner.log) {turn : Turn σ} (hturn : fair turn.state) {plan : Plan}
    (hplan : ((planner.serve broker (some a.plan.checkpoint) turn.request).run
      turn.state).result = .ok plan) :
    Follows broker planner.log a ⟨turn.state,
      ((planner.serve broker (some a.plan.checkpoint) turn.request).run turn.state).calls,
      plan⟩ := by
  obtain ⟨budget, hserve⟩ := exists_serve_eq planner broker (some a.plan.checkpoint) turn.request
  rw [hserve] at hplan ⊢
  obtain ⟨listed, earliest, hreports, hresumed⟩ := resumedBy_of_planCycle h hturn ha hplan
  have hcalls := calls_prefix_of_planCycle ha hplan hreports
  exact ⟨listed, earliest, hreports, hcalls, hresumed⟩

theorem carry_of_ok {outcome : Outcome σ Plan} {plan : Plan} (h : outcome.result = .ok plan) :
    carry previous outcome = some plan.checkpoint := by
  simp [carry, h]

theorem carry_of_error {outcome : Outcome σ Plan} {e : CycleError}
    (h : outcome.result = .error e) : carry previous outcome = previous := by
  simp [carry, h]

theorem isChain_cons_successes (h : broker.Obliging fair) (hturns : ∀ t ∈ turns, fair t.state)
    {a : Success σ} (ha : a.plan.Resumable planner.log) :
    (a :: successes (planner.runTurns broker (some a.plan.checkpoint) turns)).IsChain
        (Follows broker planner.log) ∧
      ∀ b ∈ successes (planner.runTurns broker (some a.plan.checkpoint) turns),
        b.plan.Resumable planner.log := by
  -- The induction carries the last plan: each cycle is given its checkpoint until the next success.
  induction turns generalizing a with
  | nil => exact ⟨.singleton a, nofun⟩
  | cons turn rest ih =>
    obtain ⟨hturn, hrest⟩ := List.forall_mem_cons.1 hturns
    rw [runTurns]
    cases hresult : ((planner.serve broker (some a.plan.checkpoint) turn.request).run
        turn.state).result with
    | error e =>
      rw [successes_cons_of_error hresult, carry_of_error hresult]
      exact ih hrest ha
    | ok plan =>
      have hfollows := follows_of_serve h ha hturn hresult
      have hb := resumable_of_serve h hturn hresult
      rw [successes_cons_of_ok hresult, carry_of_ok hresult]
      obtain ⟨hchain, hall⟩ := ih hrest (a := ⟨turn.state, _, plan⟩) hb
      exact ⟨.cons_cons hfollows hchain, List.forall_mem_cons.2 ⟨hb, hall⟩⟩

/-- Each success of a run follows the one before, whatever checkpoint the run began with. -/
theorem isChain_successes (h : broker.Obliging fair) (hturns : ∀ t ∈ turns, fair t.state)
    (planner : Planner) (previous : Option String) :
    (successes (planner.runTurns broker previous turns)).IsChain (Follows broker planner.log) ∧
      ∀ b ∈ successes (planner.runTurns broker previous turns),
        b.plan.Resumable planner.log := by
  induction turns with
  | nil => exact ⟨.nil, nofun⟩
  | cons turn rest ih =>
    obtain ⟨hturn, hrest⟩ := List.forall_mem_cons.1 hturns
    rw [runTurns]
    cases hresult : ((planner.serve broker previous turn.request).run turn.state).result with
    | error e =>
      rw [successes_cons_of_error hresult, carry_of_error hresult]
      exact ih hrest
    | ok plan =>
      have hb := resumable_of_serve h hturn hresult
      rw [successes_cons_of_ok hresult, carry_of_ok hresult]
      obtain ⟨hchain, hall⟩ :=
        isChain_cons_successes h hrest (a := ⟨turn.state, _, plan⟩) hb
      exact ⟨hchain, List.forall_mem_cons.2 ⟨hb, hall⟩⟩

/-- Behind a plan a run does not depend on the reset strategy. -/
theorem runTurns_withReset (h : broker.Obliging fair) (hturns : ∀ t ∈ turns, fair t.state)
    {plan : Plan} (hplan : plan.Resumable planner.log) (reset : ResetStrategy) :
    (planner.withReset reset).runTurns broker (some plan.checkpoint) turns =
      planner.runTurns broker (some plan.checkpoint) turns := by
  induction turns generalizing plan with
  | nil => rfl
  | cons turn rest ih =>
    obtain ⟨hturn, hrest⟩ := List.forall_mem_cons.1 hturns
    have hsame : (planner.withReset reset).serve broker (some plan.checkpoint) turn.request =
        planner.serve broker (some plan.checkpoint) turn.request := by
      cases turn.request with
      | plan budget => exact planCycle_withReset hplan reset
      | next limit => exact planCycle_withReset hplan reset
    rw [runTurns, runTurns, hsame]
    congr 1
    cases hresult : ((planner.serve broker (some plan.checkpoint) turn.request).run
        turn.state).result with
    | error e =>
      rw [carry_of_error hresult]
      exact ih hrest hplan
    | ok next =>
      rw [carry_of_ok hresult]
      exact ih hrest (resumable_of_serve h hturn hresult)

theorem map_turn_runTurns (planner : Planner) (broker : Broker σ) (previous : Option String)
    (turns : List (Turn σ)) : (planner.runTurns broker previous turns).map (·.turn) = turns := by
  induction turns generalizing previous with
  | nil => rfl
  | cons turn rest ih => rw [runTurns, List.map_cons, ih]

theorem exists_of_runTurns_eq_append {before after : List (Served σ)} {c : Served σ} {plan : Plan}
    (h : planner.runTurns broker previous turns = before ++ c :: after)
    (hplan : c.outcome.result = .ok plan) :
    ∃ previous' rest, c.outcome =
        (planner.serve broker previous' c.turn.request).run c.turn.state ∧
      turns = before.map (·.turn) ++ c.turn :: rest ∧
      after = planner.runTurns broker (some plan.checkpoint) rest := by
  -- Every cycle before `c` hands its own checkpoint on, so the first one is any.
  induction before generalizing previous turns with
  | nil =>
    cases turns with
    | nil => cases h
    | cons turn rest =>
      rw [runTurns, List.nil_append] at h
      obtain ⟨rfl, rfl⟩ := List.cons.inj h
      rw [carry_of_ok hplan]
      exact ⟨previous, rest, rfl, rfl, rfl⟩
  | cons b before ih =>
    cases turns with
    | nil => cases h
    | cons turn rest =>
      rw [runTurns, List.cons_append] at h
      obtain ⟨rfl, htail⟩ := List.cons.inj h
      obtain ⟨previous', rest', houtcome, hturns, hafter⟩ := ih htail
      exact ⟨previous', rest', houtcome, congrArg (turn :: ·) hturns, hafter⟩

/-- The cycles behind a plan are those of a planner with any other reset strategy. -/
theorem eq_withReset_of_runTurns (h : broker.Obliging fair) (hturns : ∀ t ∈ turns, fair t.state)
    {before after : List (Served σ)} {c : Served σ} {plan : Plan}
    (hrun : planner.runTurns broker previous turns = before ++ c :: after)
    (hplan : c.outcome.result = .ok plan) (reset : ResetStrategy) :
    after = (planner.withReset reset).runTurns broker (some plan.checkpoint)
      (after.map (·.turn)) := by
  obtain ⟨previous', rest, houtcome, rfl, rfl⟩ := exists_of_runTurns_eq_append hrun hplan
  obtain ⟨hc, hrest⟩ := List.forall_mem_cons.1 fun t ht =>
    hturns t (List.mem_append_right _ ht)
  rw [houtcome] at hplan
  rw [map_turn_runTurns, runTurns_withReset h hrest (resumable_of_serve h hc hplan)]

end Planner

/-! ## A broker in memory -/

/-- As long as no answer is scripted, a broker in memory is obliging. It may be down. -/
theorem Memory.obliging :
    Memory.broker.Obliging fun m => m.earliestScript = [] ∧ m.latestScript = [] := by
  constructor
  · intro log m hm
    exact hm
  · rintro asked m ⟨hearliest, hlatest⟩
    refine ⟨⟨congrArg List.tail hearliest, hlatest⟩, fun answer h p hp => ?_⟩
    simp only [Memory.broker, hearliest] at h
    rw [Memory.eq_of_answer h] at hp
    exact Memory.contains_of_reported hp
  · rintro asked m ⟨hearliest, hlatest⟩
    refine ⟨⟨hearliest, congrArg List.tail hlatest⟩, fun answer h p hp => ?_⟩
    simp only [Memory.broker, hlatest] at h
    rw [Memory.eq_of_answer h] at hp
    exact Memory.contains_of_reported hp

namespace Planner

variable {broker : Broker σ} {fair : σ → Prop} {turns : List (Turn σ)}

/-- Over whole runs nothing is lost or planned twice. Each success follows the one before, however
many cycles failed in between and whatever the broker has become. Behind the first success the
reset strategy has no say. And over any stretch of successes in which a partition is always listed
and no deleted records force a new start, each record between the first start and the last stop is
planned exactly once, and no other record of the partition is.

A listing may well name partitions of other logs: a cycle that sees one has no checkpoint, and
fails. -/
theorem runTurns_resume (h : broker.Obliging fair) (hturns : ∀ t ∈ turns, fair t.state)
    (planner : Planner) (previous : Option String) :
    (successes (planner.runTurns broker previous turns)).IsChain (Follows broker planner.log) ∧
    (∀ before c after plan reset,
      planner.runTurns broker previous turns = before ++ c :: after →
      c.outcome.result = .ok plan →
        after = (planner.withReset reset).runTurns broker (some plan.checkpoint)
          (after.map (·.turn))) ∧
    ∀ p stretch a b first last, stretch <:+: successes (planner.runTurns broker previous turns) →
      stretch.IsChain (fun a b => ¬ Overtakes broker planner.log a b) →
      (∀ c ∈ stretch, p ∈ c.plan.ranges.map (·.partition)) →
      stretch.head? = some a → first ∈ a.plan.ranges → first.partition = p →
      stretch.getLast? = some b → last ∈ b.plan.ranges → last.partition = p →
        stretch.IsChain (Joined p) ∧
        ∀ offset, timesPlanned stretch p offset =
          if first.start ≤ offset ∧ offset < last.stop then 1 else 0 := by
  obtain ⟨hchain, hall⟩ := isChain_successes h hturns planner previous
  refine ⟨hchain, ?_, ?_⟩
  · intro before c after plan reset hrun hplan
    exact eq_withReset_of_runTurns h hturns hrun hplan reset
  · intro p stretch a b first last hstretch hkept hlisted hhead hfirst hfirstp hlast hlastr hlastp
    have hresumable : ∀ c ∈ stretch, c.plan.Resumable planner.log := fun c hc =>
      hall c (hstretch.mem hc)
    have hfollows := hchain.infix hstretch
    have hjoined : stretch.IsChain (Joined p) := by
      rw [List.isChain_iff_getElem]
      intro i hi
      exact joined_of_follows (hfollows.getElem i hi) (hkept.getElem i hi) p
    refine ⟨hjoined, fun offset => ?_⟩
    exact (timesPlanned_eq hhead hlast hjoined hresumable hlisted hfirst hfirstp hlastr hlastp
      offset).2

/-- A run in which the broker is down, gets a new partition, and deletes records too early. -/
def ordersTurns : List (Turn Memory) :=
  let orders := fun ends => Memory.ofPartitions "orders" (.ofList ends)
  [⟨orders [(0, (0, 10))], .plan 4⟩,
    ⟨{ orders [(0, (0, 10))] with listDown := true }, .next 6⟩,
    ⟨orders [(0, (2, 12)), (1, (0, 5))], .next 6⟩,
    ⟨orders [(0, (9, 20)), (1, (1, 9))], .next 6⟩]

theorem runTurns_resume_orders :
    (successes ((Planner.mk "orders" ⟨100, .earliest, .zero⟩).runTurns Memory.broker none
        ordersTurns)).map (·.plan.checkpoint) =
      ["orders,0:4", "orders,0:7,1:3", "orders,0:12,1:4"] ∧
    (successes ((Planner.mk "orders" ⟨100, .earliest, .zero⟩).runTurns Memory.broker none
        ordersTurns)).IsChain (Follows Memory.broker "orders") := by
  refine ⟨by decide +kernel, ?_⟩
  have hturns : ∀ t ∈ ordersTurns, t.state.earliestScript = [] ∧ t.state.latestScript = [] := by
    simp [ordersTurns, Memory.ofPartitions]
  exact (runTurns_resume Memory.obliging hturns ⟨"orders", ⟨100, .earliest, .zero⟩⟩ none).1

end Planner

end LogIntake
