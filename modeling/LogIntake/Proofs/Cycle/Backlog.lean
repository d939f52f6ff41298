import LogIntake.Proofs.Cycle.Live
import LogIntake.Proofs.Cycle.Provenance

/-!
# Budgets add up

Over a broker that stands still, each cycle takes what its budget allows from the records that
were left by the one before. However the budgets are divided among the cycles, their sum decides
how many records are planned, until none are left.

## Main definitions

- `Snapshot.backlog`: the number of records between the starts of a cycle and the ends.
- `Snapshot.StartsWithin`: no start is outside of what the broker keeps.
- `Snapshot.Advances`: what one cycle comes to.
- `plannedTotal`, `Planner.granted`: the records planned in a run, and its budgets.

## Main statements

- `Snapshot.exists_advances`: a cycle takes its share of the backlog and leaves the rest.
- `Broker.Shows.plannedTotal_runTurns`: a run takes the sum of its budgets.
- `Broker.Shows.settled_of_mem_runTurns`: behind the last record nothing changes any more.
-/

namespace LogIntake

open Session

variable {σ : Type}

/-! ## Totals of ranges -/

namespace OffsetRange

/-- Ranges have no record in total if none of them has. -/
theorem total_eq_zero_iff {ranges : List OffsetRange} (h : ∀ r ∈ ranges, r.start ≤ r.stop) :
    total ranges = 0 ↔ ∀ r ∈ ranges, r.start = r.stop := by
  induction ranges with
  | nil => simp [total]
  | cons r rest ih =>
    obtain ⟨hr, hrest⟩ := List.forall_mem_cons.1 h
    have hcount := Int64.le_iff_toInt_le.1 hr
    have hnonneg := total_nonneg hrest
    rw [List.forall_mem_cons, ← ih hrest, total, count, ← Int64.toInt_inj]
    omega

/-- What lies behind the starts of some ranges is in the ranges or behind their stops. -/
theorem sum_map_sub_start (f : Partition → Int) (ranges : List OffsetRange) :
    (ranges.map fun r => f r.partition - r.start.toInt).sum =
      (ranges.map fun r => f r.partition - r.stop.toInt).sum + total ranges := by
  induction ranges with
  | nil => rfl
  | cons r rest ih =>
    simp only [List.map_cons, List.sum_cons, ih, total, count]
    omega

end OffsetRange

/-! ## One cycle -/

namespace Snapshot

variable {snapshot : Snapshot} {log : String} {settings : PlannerSettings}
  {offsets next : OffsetTable} {budget : Int64} {plan : Plan}

/-- The number of records between the starts of a cycle and the ends. -/
def backlog (snapshot : Snapshot) (settings : PlannerSettings) (offsets : OffsetTable) : Int :=
  (snapshot.listed.keys.map fun p =>
    (snapshot.stop p).toInt - (snapshot.start settings offsets p).toInt).sum

/-- A cycle starts in every listed partition at a record that is kept, or at the end. -/
def StartsWithin (snapshot : Snapshot) (settings : PlannerSettings) (offsets : OffsetTable) :
    Prop :=
  ∀ p, snapshot.listed.contains p = true →
    snapshot.earliest p ≤ snapshot.start settings offsets p ∧
      snapshot.start settings offsets p ≤ snapshot.stop p

/-- A log with a name that a checkpoint can carry, and with partitions, all of them its own. -/
structure Plannable (snapshot : Snapshot) (log : String) : Prop where
  log_ne_empty : log ≠ ""
  comma_not_mem_log : ',' ∉ log.toList
  listed_ne_empty : snapshot.listed ≠ .empty
  log_eq : ∀ p, snapshot.listed.contains p = true → p.log = log

/-- What a cycle behind some offsets comes to: its share of the backlog, and a checkpoint with the
offsets `next`, behind which the rest of the backlog lies. -/
structure Advances (snapshot : Snapshot) (log : String) (settings : PlannerSettings)
    (offsets : OffsetTable) (budget : Int64) (plan : Plan) (next : OffsetTable) : Prop where
  encode : (Checkpoint.mk log next).encode = .ok plan.checkpoint
  within : snapshot.StartsWithin settings next
  total : plan.total = min budget.toInt (snapshot.backlog settings offsets)
  backlog : snapshot.backlog settings next = snapshot.backlog settings offsets - plan.total
  drained : snapshot.backlog settings offsets ≤ budget.toInt → next = snapshot.stops

theorem backlog_starts : (snapshot.starts settings offsets).backlog snapshot.stops =
    snapshot.backlog settings offsets := by
  rw [OffsetTable.backlog, backlog, stops, Table.tabulate, Table.keys, List.map_map, List.map_map]
  congr 1
  refine List.map_congr_left fun e he => ?_
  have hlisted : snapshot.listed.contains e.1 = true :=
    Table.contains_of_get? (Table.get?_eq_some_iff.2 he)
  simp only [Function.comp_apply, startAt_starts hlisted]

theorem StartsWithin.backlog_nonneg (h : snapshot.StartsWithin settings offsets) :
    0 ≤ snapshot.backlog settings offsets := by
  rw [backlog]
  refine List.sum_nonneg (List.forall_mem_map.2 fun p hp => ?_)
  have hle := Int64.le_iff_toInt_le.1 (h p (Table.contains_iff_mem_keys.2 hp)).2
  omega

/-- Where no start is behind the end of its partition there is a plan. -/
theorem exists_plan (h : snapshot.Plannable log)
    (hends : ∀ p, snapshot.listed.contains p = true →
      snapshot.start settings offsets p ≤ snapshot.stop p) (hbudget : 0 ≤ budget) :
    ∃ plan, snapshot.plan log settings offsets budget = .ok plan := by
  have hinputs : Allocatable (snapshot.starts settings offsets) snapshot.stops budget := by
    refine ⟨hbudget, Table.ne_empty_of_keys_eq (Table.keys_tabulate _ _) h.listed_ne_empty, ?_⟩
    intro p stop hstop
    obtain ⟨hlisted, rfl⟩ := Table.get?_tabulate_eq_some_iff.1 hstop
    rw [startAt_starts hlisted]
    exact hends p hlisted
  obtain ⟨allocation, hallocate, -⟩ := Allocation.allocate_eq_ok hinputs
  have hforeign : ∀ p, snapshot.stops.contains p = true → p.log = log := fun p hp => by
    rw [contains_stops] at hp
    exact h.log_eq p hp
  have hencode := Checkpoint.encode_eq_ok (c := .ofRanges log allocation.ranges)
    ⟨h.log_ne_empty, h.comma_not_mem_log,
      fun p => log_eq_of_mem_keys_ofRanges (exactRanges_of_allocate hallocate) hforeign⟩
  have hlisted : ¬ snapshot.listed.isEmpty = true := fun hempty =>
    h.listed_ne_empty (Table.isEmpty_iff.1 hempty)
  rw [Snapshot.plan, if_neg hlisted, hallocate]
  simp only [hencode]
  exact ⟨_, rfl⟩

section Plan

variable (hplan : snapshot.plan log settings offsets budget = .ok plan)

include hplan

theorem exactRanges_of_plan :
    ExactRanges (snapshot.starts settings offsets) snapshot.stops budget plan.ranges := by
  obtain ⟨allocation, hallocate, hranges⟩ := (specifies_of_plan hplan).ranges
  rw [hranges]
  exact exactRanges_of_allocate hallocate

theorem resumable_of_plan (hlisted : snapshot.listed ≠ .empty) : plan.Resumable log :=
  resumable_of_exactRanges (Table.ne_empty_of_keys_eq (Table.keys_tabulate _ _) hlisted)
    (exactRanges_of_plan hplan) (specifies_of_plan hplan).checkpoint

/-- The ranges stop at records that are kept, or at the end. -/
theorem stop_within_of_plan (hwithin : snapshot.StartsWithin settings offsets) {r : OffsetRange}
    (hr : r ∈ plan.ranges) :
    snapshot.earliest r.partition ≤ r.stop ∧ r.stop ≤ snapshot.stop r.partition := by
  obtain ⟨stop, hstop, -, hle, hle'⟩ := (exactRanges_of_plan hplan).bounds r hr
  obtain ⟨hlisted, rfl⟩ := Table.get?_tabulate_eq_some_iff.1 hstop
  have hstart := (specifies_of_plan hplan).start r hr
  have hkept := (hwithin _ hlisted).1
  rw [← hstart] at hkept
  exact ⟨Int64.le_trans hkept hle, hle'⟩

/-- Behind a plan of kept records, a cycle starts where the ranges of the plan stop. -/
theorem start_ofRanges (hlisted : snapshot.listed ≠ .empty)
    (hwithin : snapshot.StartsWithin settings offsets) {r : OffsetRange} (hr : r ∈ plan.ranges) :
    snapshot.start settings (Checkpoint.ofRanges log plan.ranges).offsets r.partition = r.stop := by
  have hresumable := resumable_of_plan hplan hlisted
  refine start_of_get? (fun htrimmed => ?_) (hresumable.get?_iff.2 ⟨r, hr, rfl, rfl⟩)
  obtain ⟨p, offset, -, hoffset, hlt⟩ := trimmed_iff_exists.1 htrimmed
  obtain ⟨r', hr', rfl, rfl⟩ := hresumable.get?_iff.1 hoffset
  exact Int64.not_lt.2 (stop_within_of_plan hplan hwithin hr').1 hlt

theorem backlog_eq_sum_ranges (f : OffsetTable) : snapshot.backlog settings f =
    (plan.ranges.map fun r => (snapshot.stop r.partition).toInt -
      (snapshot.start settings f r.partition).toInt).sum := by
  rw [backlog, ← (specifies_of_plan hplan).partitions, List.map_map]
  rfl

/-- What lies behind the ranges of a plan is left to the next cycle. -/
theorem backlog_ofRanges (hlisted : snapshot.listed ≠ .empty)
    (hwithin : snapshot.StartsWithin settings offsets) :
    snapshot.backlog settings (Checkpoint.ofRanges log plan.ranges).offsets =
      snapshot.backlog settings offsets - plan.total := by
  have hbefore : snapshot.backlog settings offsets =
      (plan.ranges.map fun r => (snapshot.stop r.partition).toInt - r.start.toInt).sum := by
    rw [backlog_eq_sum_ranges hplan]
    congr 1
    refine List.map_congr_left fun r hr => ?_
    rw [(specifies_of_plan hplan).start r hr]
  have hafter : snapshot.backlog settings (Checkpoint.ofRanges log plan.ranges).offsets =
      (plan.ranges.map fun r => (snapshot.stop r.partition).toInt - r.stop.toInt).sum := by
    rw [backlog_eq_sum_ranges hplan]
    congr 1
    refine List.map_congr_left fun r hr => ?_
    rw [start_ofRanges hplan hlisted hwithin hr]
  have hsum := OffsetRange.sum_map_sub_start (fun p => (snapshot.stop p).toInt) plan.ranges
  rw [hbefore, hafter, Plan.total]
  omega

/-- A budget for the whole backlog leads to the ends. -/
theorem ofRanges_eq_stops (hfits : snapshot.backlog settings offsets ≤ budget.toInt) :
    (Checkpoint.ofRanges log plan.ranges).offsets = snapshot.stops := by
  have hexact := exactRanges_of_plan hplan
  have hstops : snapshot.stops.entries =
      plan.ranges.map fun r => (r.partition, snapshot.stop r.partition) := by
    have hkeys : snapshot.stops.entries =
        snapshot.listed.keys.map fun p => (p, snapshot.stop p) := by
      rw [stops, Table.tabulate, Table.keys, List.map_map]
      rfl
    rw [hkeys, ← (specifies_of_plan hplan).partitions, List.map_map]
    rfl
  apply Table.ext_entries
  rw [Checkpoint.entries_ofRanges log hexact.ascending, hstops]
  refine List.map_congr_left fun r hr => ?_
  rw [← backlog_starts] at hfits
  obtain ⟨-, hstop⟩ := Table.get?_tabulate_eq_some_iff.1 (hexact.drained hfits r hr)
  rw [hstop]

/-- A cycle takes its share of the backlog and leaves the rest. -/
theorem advances_of_plan (hlisted : snapshot.listed ≠ .empty)
    (hwithin : snapshot.StartsWithin settings offsets) :
    snapshot.Advances log settings offsets budget plan
      (Checkpoint.ofRanges log plan.ranges).offsets where
  encode := (specifies_of_plan hplan).checkpoint
  within p hp := by
    rw [Table.contains_iff_mem_keys, ← (specifies_of_plan hplan).partitions] at hp
    obtain ⟨r, hr, rfl⟩ := List.mem_map.1 hp
    rw [start_ofRanges hplan hlisted hwithin hr]
    exact stop_within_of_plan hplan hwithin hr
  total := by rw [Plan.total, (exactRanges_of_plan hplan).total, backlog_starts]
  backlog := backlog_ofRanges hplan hlisted hwithin
  drained := ofRanges_eq_stops hplan

end Plan

/-- Where the starts are within the ends there is a plan. -/
theorem exists_advances (h : snapshot.Plannable log)
    (hwithin : snapshot.StartsWithin settings offsets) (hbudget : 0 ≤ budget) :
    ∃ plan next, snapshot.plan log settings offsets budget = .ok plan ∧
      snapshot.Advances log settings offsets budget plan next := by
  obtain ⟨plan, hplan⟩ := exists_plan h (fun p hp => (hwithin p hp).2) hbudget
  exact ⟨plan, _, hplan, advances_of_plan hplan h.listed_ne_empty hwithin⟩

/-- The next cycle reads the offsets of the checkpoint. -/
theorem Advances.readCheckpoint_eq (h : snapshot.Advances log settings offsets budget plan next) :
    readCheckpoint log plan.checkpoint = .ok ⟨log, next⟩ :=
  readCheckpoint_of_log_eq (Checkpoint.decode_encode h.encode) rfl

end Snapshot

/-! ## Runs -/

/-- The number of records that a run plans to read. -/
def plannedTotal (run : List (Served σ)) : Int := ((successes run).map (·.plan.total)).sum

/-- The sum of the budgets of some cycles. -/
def Planner.granted (planner : Planner) (turns : List (Turn σ)) : Int :=
  (turns.map fun t => (planner.budgetOf t.request).toInt).sum

namespace Planner

variable {planner : Planner} {turns : List (Turn σ)}

theorem granted_cons (turn : Turn σ) (turns : List (Turn σ)) :
    planner.granted (turn :: turns) =
      (planner.budgetOf turn.request).toInt + planner.granted turns := rfl

theorem granted_append (turns turns' : List (Turn σ)) :
    planner.granted (turns ++ turns') = planner.granted turns + planner.granted turns' := by
  rw [granted, List.map_append, List.sum_append]
  rfl

theorem granted_nonneg (h : ∀ t ∈ turns, 0 ≤ planner.budgetOf t.request) :
    0 ≤ planner.granted turns :=
  List.sum_nonneg (List.forall_mem_map.2 fun t ht => Int64.le_iff_toInt_le.1 (h t ht))

end Planner

/-- What is carried to a cycle reads as the offsets, and the cycle starts within the ends. -/
structure Snapshot.Awaits (snapshot : Snapshot) (planner : Planner) (previous : Option String)
    (offsets : OffsetTable) : Prop where
  read : ∃ name, readCheckpoint planner.log (previous.getD "") = .ok ⟨name, offsets⟩
  within : snapshot.StartsWithin planner.settings offsets

theorem Snapshot.Advances.awaits {snapshot : Snapshot} {planner : Planner}
    {offsets next : OffsetTable} {budget : Int64} {plan : Plan}
    (h : snapshot.Advances planner.log planner.settings offsets budget plan next) :
    snapshot.Awaits planner (some plan.checkpoint) next :=
  ⟨⟨planner.log, h.readCheckpoint_eq⟩, h.within⟩

/-- A turn that meets the broker as it stands still, and whose budget is not negative. -/
structure Turn.Steady (turn : Turn σ) (planner : Planner) (still : σ → Prop) : Prop where
  still : still turn.state
  budget_nonneg : 0 ≤ planner.budgetOf turn.request

theorem Turn.Steady.toInt_budget_nonneg {turn : Turn σ} {planner : Planner} {still : σ → Prop}
    (h : turn.Steady planner still) : 0 ≤ (planner.budgetOf turn.request).toInt :=
  Int64.le_iff_toInt_le.1 h.budget_nonneg

namespace Broker.Shows

variable {broker : Broker σ} {planner : Planner} {snapshot : Snapshot} {still : σ → Prop}
  {previous : Option String} {offsets : OffsetTable} {turns : List (Turn σ)}

theorem exists_advances_of_serve (h : broker.Shows planner.log snapshot still)
    (hplannable : snapshot.Plannable planner.log) {turn : Turn σ}
    (hturn : turn.Steady planner still) (hawaits : snapshot.Awaits planner previous offsets) :
    ∃ plan next, ((planner.serve broker previous turn.request).run turn.state).result = .ok plan ∧
      snapshot.Advances planner.log planner.settings offsets (planner.budgetOf turn.request) plan
        next := by
  obtain ⟨⟨name, hread⟩, hwithin⟩ := hawaits
  obtain ⟨plan, next, hplan, hadvances⟩ :=
    Snapshot.exists_advances hplannable hwithin hturn.budget_nonneg
  refine ⟨plan, next, ?_, hadvances⟩
  rw [planner.serve_eq, h.result_planCycle hturn.still, Snapshot.planFrom, hread]
  exact hplan

/-- Over a whole run, the records planned are as many as the budgets allow. -/
theorem plannedTotal_runTurns (h : broker.Shows planner.log snapshot still)
    (hplannable : snapshot.Plannable planner.log) (hturns : ∀ t ∈ turns, t.Steady planner still)
    (hawaits : snapshot.Awaits planner previous offsets) :
    plannedTotal (planner.runTurns broker previous turns) =
      min (planner.granted turns) (snapshot.backlog planner.settings offsets) := by
  -- The induction carries the offsets: each cycle lowers the backlog by what it plans.
  induction turns generalizing previous offsets with
  | nil =>
    exact (Int.min_eq_left hawaits.within.backlog_nonneg).symm
  | cons turn rest ih =>
    obtain ⟨hturn, hrest⟩ := List.forall_mem_cons.1 hturns
    obtain ⟨plan, next, hresult, hadvances⟩ := h.exists_advances_of_serve hplannable hturn hawaits
    have htotal := ih hrest hadvances.awaits
    have hgranted := Planner.granted_nonneg fun t ht => (hrest t ht).budget_nonneg
    have hbudget := hturn.toInt_budget_nonneg
    have hrun : plannedTotal (planner.runTurns broker previous (turn :: rest)) =
        plan.total +
          plannedTotal (planner.runTurns broker (some plan.checkpoint) rest) := by
      rw [Planner.runTurns, plannedTotal, successes_cons_of_ok hresult,
        Planner.carry_of_ok hresult]
      rfl
    rw [hrun, htotal, hadvances.backlog, hadvances.total, Planner.granted_cons]
    have hbacklog := hawaits.within.backlog_nonneg
    omega

/-- Every cycle of a run comes to a plan, from what the ones before have left. -/
theorem exists_advances_of_runTurns (h : broker.Shows planner.log snapshot still)
    (hplannable : snapshot.Plannable planner.log) (hturns : ∀ t ∈ turns, t.Steady planner still)
    (hawaits : snapshot.Awaits planner previous offsets) {before after : List (Served σ)}
    {served : Served σ}
    (hrun : planner.runTurns broker previous turns = before ++ served :: after) :
    ∃ offsets' plan next, served.outcome.result = .ok plan ∧
      snapshot.Advances planner.log planner.settings offsets'
        (planner.budgetOf served.turn.request) plan next ∧
      snapshot.backlog planner.settings offsets' = snapshot.backlog planner.settings offsets -
        min (planner.granted (before.map (·.turn))) (snapshot.backlog planner.settings offsets) ∧
      after = planner.runTurns broker (some plan.checkpoint) (after.map (·.turn)) := by
  have hbacklog := hawaits.within.backlog_nonneg
  induction before generalizing previous offsets turns with
  | nil =>
    cases turns with
    | nil => cases hrun
    | cons turn rest =>
      obtain ⟨hturn, -⟩ := List.forall_mem_cons.1 hturns
      obtain ⟨plan, next, hresult, hadvances⟩ :=
        h.exists_advances_of_serve hplannable hturn hawaits
      rw [Planner.runTurns, Planner.carry_of_ok hresult, List.nil_append] at hrun
      obtain ⟨rfl, rfl⟩ := List.cons.inj hrun
      have hnone : planner.granted ([] : List (Turn σ)) = 0 := rfl
      refine ⟨offsets, plan, next, hresult, hadvances, ?_, ?_⟩
      · rw [List.map_nil, hnone]
        omega
      · rw [Planner.map_turn_runTurns]
  | cons first before ih =>
    cases turns with
    | nil => cases hrun
    | cons turn rest =>
      obtain ⟨hturn, hrest⟩ := List.forall_mem_cons.1 hturns
      obtain ⟨plan, next, hresult, hadvances⟩ :=
        h.exists_advances_of_serve hplannable hturn hawaits
      rw [Planner.runTurns, Planner.carry_of_ok hresult, List.cons_append] at hrun
      obtain ⟨rfl, htail⟩ := List.cons.inj hrun
      obtain ⟨offsets', plan', next', hresult', hadvances', hleft, hafter⟩ :=
        ih hrest hadvances.awaits htail hadvances.within.backlog_nonneg
      refine ⟨offsets', plan', next', hresult', hadvances', ?_, hafter⟩
      -- The turns before are turns of the run, so their budgets are not negative either.
      have hsplit := planner.map_turn_runTurns broker (some plan.checkpoint) rest
      rw [htail, List.map_append] at hsplit
      have hgranted : 0 ≤ planner.granted (before.map (·.turn)) := Planner.granted_nonneg
        fun t ht => (hrest t (by rw [← hsplit]; exact List.mem_append_left _ ht)).budget_nonneg
      have hbudget := hturn.toInt_budget_nonneg
      rw [hleft, hadvances.backlog, hadvances.total, List.map_cons, Planner.granted_cons]
      dsimp only
      omega

/-- Behind the last record nothing changes any more. -/
theorem settled_of_mem_runTurns (h : broker.Shows planner.log snapshot still)
    (hplannable : snapshot.Plannable planner.log) (hturns : ∀ t ∈ turns, t.Steady planner still)
    {text : String} (hencode : (Checkpoint.mk planner.log snapshot.stops).encode = .ok text)
    (hwithin : snapshot.StartsWithin planner.settings snapshot.stops)
    (hnone : snapshot.backlog planner.settings snapshot.stops = 0) :
    ∀ served ∈ planner.runTurns broker (some text) turns,
      ∃ plan, served.outcome.result = .ok plan ∧ plan.isEmpty = true ∧ plan.checkpoint = text := by
  induction turns with
  | nil => exact List.forall_mem_nil _
  | cons turn rest ih =>
    obtain ⟨hturn, hrest⟩ := List.forall_mem_cons.1 hturns
    have hawaits : snapshot.Awaits planner (some text) snapshot.stops :=
      ⟨⟨_, readCheckpoint_of_log_eq (Checkpoint.decode_encode hencode) rfl⟩, hwithin⟩
    obtain ⟨plan, next, hresult, hadvances⟩ := h.exists_advances_of_serve hplannable hturn hawaits
    have hbudget := hturn.toInt_budget_nonneg
    have htotal : plan.total = 0 := by
      rw [hadvances.total, hnone]
      omega
    have hsame : plan.checkpoint = text := by
      have hagain := hadvances.encode
      rw [hadvances.drained (by omega), hencode] at hagain
      exact (Except.ok.inj hagain).symm
    rw [Planner.runTurns, Planner.carry_of_ok hresult, hsame]
    exact List.forall_mem_cons.2 ⟨⟨plan, hresult, decide_eq_true htotal, hsame⟩, ih hrest⟩

end Broker.Shows

/-- A plan is empty if each of its ranges is, whatever broker it is for. -/
theorem isEmpty_iff_of_planCycle {broker : Broker σ} {log previous : String}
    {settings : PlannerSettings} {budget : Int64} {s : σ} {plan : Plan}
    (hplan : ((planCycle broker log settings previous budget).run s).result = .ok plan) :
    plan.isEmpty = true ↔ ∀ r ∈ plan.ranges, r.start = r.stop := by
  obtain ⟨_, _, _, _, _, allocation, _, _, -, -, -, -, -, -, -, hallocate, hranges, -⟩ :=
    exists_stages_of_planCycle hplan
  have hexact := exactRanges_of_allocate hallocate
  rw [← hranges] at hexact
  have hle : ∀ r ∈ plan.ranges, r.start ≤ r.stop := fun r hr => by
    obtain ⟨_, -, -, hle, -⟩ := hexact.bounds r hr
    exact hle
  rw [Plan.isEmpty, decide_eq_true_eq, Plan.total, OffsetRange.total_eq_zero_iff hle]

/-- Budgets add up across cycles. Over a broker that stands still, a run that begins within the ends
never fails, and it plans as many records as its budgets allow together. Once they reach the
backlog, the checkpoint has the end of every partition, and from there on every plan is empty and
has this very checkpoint. A plan is empty, for any broker, if each of its ranges is. -/
theorem Broker.Shows.runTurns_adds_up {broker : Broker σ} {planner : Planner} {snapshot : Snapshot}
    {still : σ → Prop} (h : broker.Shows planner.log snapshot still)
    (hplannable : snapshot.Plannable planner.log) {previous : Option String} {c : Checkpoint}
    (hread : readCheckpoint planner.log (previous.getD "") = .ok c)
    (hwithin : snapshot.StartsWithin planner.settings c.offsets) {turns : List (Turn σ)}
    (hturns : ∀ t ∈ turns, t.Steady planner still) :
    let run := planner.runTurns broker previous turns
    let backlog := snapshot.backlog planner.settings c.offsets
    (∀ served ∈ run, ∃ plan, served.outcome.result = .ok plan) ∧
    plannedTotal run = min (planner.granted turns) backlog ∧
    (∀ before served after, run = before ++ served :: after →
      backlog ≤ planner.granted ((before ++ [served]).map (·.turn)) →
        ∃ plan, served.outcome.result = .ok plan ∧
          Checkpoint.decode plan.checkpoint = .ok ⟨planner.log, snapshot.stops⟩ ∧
          ∀ later ∈ after, ∃ plan', later.outcome.result = .ok plan' ∧ plan'.isEmpty = true ∧
            plan'.checkpoint = plan.checkpoint) ∧
    ∀ (τ : Type) (other : Broker τ) log settings text budget s plan,
      ((planCycle other log settings text budget).run s).result = .ok plan →
        (plan.isEmpty = true ↔ ∀ r ∈ plan.ranges, r.start = r.stop) := by
  intro run backlog
  have hawaits : snapshot.Awaits planner previous c.offsets := ⟨⟨c.log, hread⟩, hwithin⟩
  refine ⟨fun served hserved => ?_, h.plannedTotal_runTurns hplannable hturns hawaits, ?_,
    fun _ _ _ _ _ _ _ _ => isEmpty_iff_of_planCycle⟩
  · obtain ⟨before, after, hrun⟩ := List.append_of_mem hserved
    obtain ⟨_, plan, _, hresult, -⟩ := h.exists_advances_of_runTurns hplannable hturns hawaits hrun
    exact ⟨plan, hresult⟩
  · intro before served after hrun hspent
    obtain ⟨offsets, plan, next, hresult, hadvances, hleft, hafter⟩ :=
      h.exists_advances_of_runTurns hplannable hturns hawaits hrun
    have hnow : planner.granted ((before ++ [served]).map (·.turn)) =
        planner.granted (before.map (·.turn)) + (planner.budgetOf served.turn.request).toInt := by
      rw [List.map_append, Planner.granted_append]
      exact congrArg _ (Int.add_zero _)
    have hsplit : turns = (before ++ served :: after).map (·.turn) := by
      rw [← hrun, Planner.map_turn_runTurns]
    rw [hsplit] at hturns
    have hbudget := (hturns served.turn (by simp)).toInt_budget_nonneg
    have hfits : snapshot.backlog planner.settings offsets ≤
        (planner.budgetOf served.turn.request).toInt := by
      omega
    obtain rfl := hadvances.drained hfits
    refine ⟨plan, hresult, Checkpoint.decode_encode hadvances.encode, ?_⟩
    rw [hafter]
    refine h.settled_of_mem_runTurns hplannable ?_ hadvances.encode hadvances.within ?_
    · intro t ht
      refine hturns t ?_
      rw [List.map_append]
      exact List.mem_append_right _ (List.mem_cons_of_mem _ ht)
    · rw [hadvances.backlog, hadvances.total]
      omega

/-- The third budget is more than what is left, and the fourth finds nothing to read. -/
theorem runTurns_adds_up_orders :
    let orders := Memory.ofPartitions "orders" (.ofList [(0, (0, 10)), (1, (2, 5))])
    let planner : Planner := ⟨"orders", ⟨100, .latest, .zero⟩⟩
    let turns : List (Turn Memory) :=
      [⟨orders, .plan 4⟩, ⟨orders, .next 3⟩, ⟨orders, .plan 100⟩, ⟨orders, .plan 5⟩]
    let run := planner.runTurns Memory.broker (some "orders,0:4,1:2") turns
    run.map (·.outcome.result.toOption.map (·.checkpoint)) =
        [some "orders,0:6,1:4", some "orders,0:8,1:5", some "orders,0:10,1:5",
          some "orders,0:10,1:5"] ∧
      plannedTotal run = min (planner.granted turns) 9 := by
  intro orders planner turns run
  let offsets : OffsetTable := .ofList [(⟨"orders", 0⟩, 4), (⟨"orders", 1⟩, 2)]
  have hshows : Memory.broker.Shows planner.log (orders.snapshot "orders") (· = orders) :=
    Memory.shows "orders" "orders" _
  have hplannable : (orders.snapshot "orders").Plannable planner.log :=
    ⟨by decide, by decide, by decide +kernel, fun _ hp => Memory.log_eq_of_contains_listed hp⟩
  have hread : readCheckpoint planner.log ((some "orders,0:4,1:2").getD "") =
      .ok ⟨"orders", offsets⟩ := by decide +kernel
  have hwithin : ∀ p ∈ (orders.snapshot "orders").listed.keys,
      (orders.snapshot "orders").earliest p ≤
          (orders.snapshot "orders").start planner.settings offsets p ∧
        (orders.snapshot "orders").start planner.settings offsets p ≤
          (orders.snapshot "orders").stop p := by decide +kernel
  have hbudgets : ∀ t ∈ turns, 0 ≤ planner.budgetOf t.request := by decide +kernel
  have hstates : ∀ t ∈ turns, t.state = orders := by simp [turns]
  have hbacklog : (orders.snapshot "orders").backlog planner.settings offsets = 9 := by
    decide +kernel
  obtain ⟨-, htotal, -⟩ := hshows.runTurns_adds_up hplannable hread
    (fun p hp => hwithin p (Table.contains_iff_mem_keys.1 hp))
    fun t ht => ⟨hstates t ht, hbudgets t ht⟩
  refine ⟨by decide +kernel, ?_⟩
  rw [← hbacklog]
  exact htotal

end LogIntake
