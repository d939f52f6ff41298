import LogIntake.Proofs.Allocation.Exact
import LogIntake.Proofs.Checkpoint.RoundTrip
import LogIntake.Proofs.Cycle.Survey
import Mathlib.Data.List.Nodup

/-!
# Going on behind a plan

A cycle that is given the checkpoint of a plan goes on where the ranges of that plan stop, or, when
records behind them are no longer kept, starts over at the earliest offsets. This holds whatever
the broker has become in between.

## Main definitions

- `Broker.Obliging`: a broker that answers about no partition that it was not asked for.
- `Plan.Resumable`: a plan whose checkpoint says where its ranges stop.
- `Broker.Reports`: the listing and the earliest offsets that a cycle gets to see.
- `Plan.ResumedBy`: how the ranges of a plan follow those of the one before.

## Main statements

- `resumable_of_planCycle`: every plan is resumable.
- `resumedBy_of_planCycle`: the next plan resumes it.
- `planCycle_withReset`: the reset strategy has no say in that.
-/

namespace LogIntake

open Session

/-! ## Obliging brokers -/

/-- In the states `fair`, a broker answers about no partition that it was not asked for. It may
fail at any call, change with any call, and leave out partitions. -/
structure Broker.Obliging {σ : Type} (broker : Broker σ) (fair : σ → Prop) : Prop where
  list : ∀ log s, fair s → fair (broker.list log s).state
  earliest : ∀ asked s, fair s → fair (broker.earliest asked s).state ∧
    ∀ answer, (broker.earliest asked s).answer = .ok answer →
      ∀ p, answer.contains p = true → asked.contains p = true
  latest : ∀ asked s, fair s → fair (broker.latest asked s).state ∧
    ∀ answer, (broker.latest asked s).answer = .ok answer →
      ∀ p, answer.contains p = true → asked.contains p = true

namespace Broker.Obliging

variable {σ : Type} {broker : Broker σ} {fair : σ → Prop} {s s' : σ} {listed : PartitionSet}
  {known starts : OffsetTable}

theorem fair_of_chooseStarts (h : broker.Obliging fair) (hs : fair s)
    {settings : PlannerSettings} {checkpoint : Checkpoint}
    (hyields : Yields (chooseStarts broker settings checkpoint listed) s known s') : fair s' := by
  rcases yields_chooseStarts_iff.1 hyields with ⟨-, hresolve, -⟩ | ⟨-, hvalidate⟩
  · rw [yields_resolveStarts_iff] at hresolve
    cases hreset : settings.reset with
    | earliest =>
      simp only [hreset] at hresolve
      obtain ⟨-, rfl⟩ := hresolve
      exact (h.earliest listed s hs).1
    | latest =>
      simp only [hreset] at hresolve
      obtain ⟨-, rfl⟩ := hresolve
      exact (h.latest listed s hs).1
  · obtain ⟨_, -, -, rfl, -⟩ := yields_validateStarts_iff.1 hvalidate
    exact (h.earliest listed s hs).1

theorem fair_of_startDiscovered (h : broker.Obliging fair) (hs : fair s) {policy : DiscoveredStart}
    (hyields : Yields (startDiscovered broker policy listed known) s starts s') : fair s' := by
  rcases yields_startDiscovered_iff.1 hyields with ⟨-, -, rfl⟩ | ⟨-, hfound⟩
  · exact hs
  · cases policy with
    | zero =>
      obtain ⟨-, rfl⟩ := hfound
      exact hs
    | earliest =>
      obtain ⟨_, -, -, -, rfl⟩ := hfound
      exact (h.earliest _ s hs).1

/-- Only partitions without a start are asked about, so all others stay as they are. -/
theorem get?_of_not_undecided (h : broker.Obliging fair) (hs : fair s) {policy : DiscoveredStart}
    (hyields : Yields (startDiscovered broker policy listed known) s starts s') {p : Partition}
    (hp : ¬ (undecided known listed).contains p = true) : starts.get? p = known.get? p := by
  rcases yields_startDiscovered_iff.1 hyields with ⟨-, rfl, -⟩ | ⟨-, hfound⟩
  · rfl
  · cases policy with
    | zero =>
      obtain ⟨rfl, -⟩ := hfound
      rw [Table.get?_extend_of_ne]
      intro e he heq
      obtain ⟨q, hq, rfl⟩ := List.mem_map.1 he
      cases heq
      exact hp (Table.contains_iff_mem_keys.2 hq)
    | earliest =>
      obtain ⟨earliest, hanswer, -, rfl, -⟩ := hfound
      have hnone : earliest.get? p = none := by
        rw [Table.get?_eq_none_iff]
        intro hcontains
        exact hp ((h.earliest _ s hs).2 earliest hanswer p hcontains)
      rw [Table.get?_extend_entries, hnone, Option.none_or]

/-- A start that is known is not replaced. -/
theorem get?_of_startDiscovered (h : broker.Obliging fair) (hs : fair s) {policy : DiscoveredStart}
    (hyields : Yields (startDiscovered broker policy listed known) s starts s') {p : Partition}
    {offset : Int64} (hp : known.get? p = some offset) : starts.get? p = some offset := by
  have hnot : ¬ (undecided known listed).contains p = true := fun hmem =>
    (contains_undecided.1 hmem).2 (Table.contains_of_get? hp)
  rw [h.get?_of_not_undecided hs hyields hnot, hp]

/-- A complete answer has the partitions asked for, and no others. -/
theorem keys_of_latest (h : broker.Obliging fair) (hs : fair s) {stops : OffsetTable}
    (hanswer : (broker.latest listed s).answer = .ok stops) (hcomplete : Complete listed stops) :
    stops.keys = listed.keys :=
  Table.keys_congr fun p => ⟨(h.latest listed s hs).2 stops hanswer p, hcomplete p⟩

end Broker.Obliging

/-! ## Plans and their checkpoints -/

/-- A plan whose checkpoint says where its ranges stop. -/
structure Plan.Resumable (plan : Plan) (log : String) : Prop where
  ranges_ne_nil : plan.ranges ≠ []
  partitions_nodup : (plan.ranges.map (·.partition)).Nodup
  start_le_stop : ∀ r ∈ plan.ranges, r.start ≤ r.stop
  decode : Checkpoint.decode plan.checkpoint = .ok (.ofRanges log plan.ranges)

namespace Plan.Resumable

variable {plan : Plan} {log : String}

theorem get?_iff (h : plan.Resumable log) {p : Partition} {offset : Int64} :
    (Checkpoint.ofRanges log plan.ranges).offsets.get? p = some offset ↔
      ∃ r ∈ plan.ranges, r.partition = p ∧ r.stop = offset := by
  have hnodup : ((plan.ranges.map fun r => (r.partition, r.stop)).map (·.1)).Nodup := by
    rw [List.map_map]
    exact h.partitions_nodup
  rw [Checkpoint.ofRanges, Table.get?_ofList_eq_some_iff hnodup, List.mem_map]
  simp

theorem not_isEmpty (h : plan.Resumable log) :
    ¬ (Checkpoint.ofRanges log plan.ranges).isEmpty = true := by
  obtain ⟨r, rest, hranges⟩ := List.exists_cons_of_ne_nil h.ranges_ne_nil
  have hr : r ∈ plan.ranges := by
    rw [hranges]
    exact List.mem_cons_self
  exact Table.not_isEmpty_of_get? (h.get?_iff.2 ⟨r, hr, rfl, rfl⟩)

/-- A partition has one range. -/
theorem eq_of_partition_eq (h : plan.Resumable log) {r r' : OffsetRange} (hr : r ∈ plan.ranges)
    (hr' : r' ∈ plan.ranges) (heq : r.partition = r'.partition) : r = r' :=
  List.inj_on_of_nodup_map h.partitions_nodup hr hr' heq

end Plan.Resumable

/-- The checkpoint of allocated ranges says where they stop. -/
theorem resumable_of_exactRanges {plan : Plan} {log : String} {starts stops : OffsetTable}
    {budget : Int64} (hsome : stops ≠ .empty) (hexact : ExactRanges starts stops budget plan.ranges)
    (hencode : (Checkpoint.ofRanges log plan.ranges).encode = .ok plan.checkpoint) :
    plan.Resumable log := by
  refine ⟨fun hnil => ?_, ?_, fun r hr => ?_, Checkpoint.decode_encode hencode⟩
  · have hkeys := hexact.partitions
    rw [hnil, eq_comm] at hkeys
    exact hsome (Table.ext_entries (List.map_eq_nil_iff.1 hkeys))
  · rw [hexact.partitions]
    exact stops.keys_nodup
  · obtain ⟨_, -, -, hle, -⟩ := hexact.bounds r hr
    exact hle

/-! ## The next plan -/

/-- The listing and the earliest offsets that the broker reports to a cycle that meets it in the
state `s`. -/
structure Broker.Reports {σ : Type} (broker : Broker σ) (log : String) (s : σ)
    (listed : PartitionSet) (earliest : OffsetTable) : Prop where
  list_eq : (broker.list log s).answer = .ok listed
  earliest_eq : (broker.earliest listed (broker.list log s).state).answer = .ok earliest

namespace Plan

/-- In some listed partition, the records behind the range are no longer all kept. -/
def Overtaken (plan : Plan) (listed : PartitionSet) (earliest : OffsetTable) : Prop :=
  ∃ r ∈ plan.ranges, listed.contains r.partition = true ∧
    ∃ kept, earliest.get? r.partition = some kept ∧ r.stop < kept

/-- How the ranges of the plan `next` follow those of a plan. -/
structure ResumedBy (plan next : Plan) (listed : PartitionSet) (earliest : OffsetTable) :
    Prop where
  partitions : next.ranges.map (·.partition) = listed.keys
  continued : ¬ plan.Overtaken listed earliest → ∀ r ∈ plan.ranges, ∀ r' ∈ next.ranges,
    r'.partition = r.partition → r'.start = r.stop
  restarted : plan.Overtaken listed earliest →
    ∀ r' ∈ next.ranges, earliest.get? r'.partition = some r'.start

/-- The checkpoint of a plan is stale exactly if the broker has overtaken the plan. -/
theorem Resumable.stale_iff {plan : Plan} {log : String} (h : plan.Resumable log)
    {listed : PartitionSet} {earliest : OffsetTable}
    (hasked : ∀ p, earliest.contains p = true → listed.contains p = true) :
    Stale (Checkpoint.ofRanges log plan.ranges).offsets earliest ↔
      plan.Overtaken listed earliest := by
  constructor
  · rintro ⟨p, offset, kept, hoffset, hkept, hlt⟩
    obtain ⟨r, hr, rfl, rfl⟩ := h.get?_iff.1 hoffset
    exact ⟨r, hr, hasked _ (Table.contains_of_get? hkept), kept, hkept, hlt⟩
  · rintro ⟨r, hr, -, kept, hkept, hlt⟩
    exact ⟨r.partition, r.stop, kept, h.get?_iff.2 ⟨r, hr, rfl, rfl⟩, hkept, hlt⟩

end Plan

section Cycle

variable {σ : Type} {broker : Broker σ} {fair : σ → Prop} {log previous : String}
  {settings : PlannerSettings} {budget : Int64} {s : σ} {plan : Plan}

/-- The checkpoint of a new plan reads back as the stops of its ranges. -/
theorem resumable_of_planCycle (h : broker.Obliging fair) (hs : fair s)
    (hplan : ((planCycle broker log settings previous budget).run s).result = .ok plan) :
    plan.Resumable log ∧ ∃ listed, (broker.list log s).answer = .ok listed ∧
      plan.ranges.map (·.partition) = listed.keys := by
  obtain ⟨checkpoint, listed, known, starts, stops, allocation, s₁, s₂, -, hlist, hsome, hchoose,
    hdiscover, hlatest, hcomplete, hallocate, hranges, hencode⟩ := exists_stages_of_planCycle hplan
  have hs₁ := h.fair_of_chooseStarts (h.list log s hs) hchoose
  have hs₂ := h.fair_of_startDiscovered hs₁ hdiscover
  have hkeys := h.keys_of_latest hs₂ hlatest hcomplete
  have hexact := exactRanges_of_allocate hallocate
  rw [← hranges] at hexact
  exact ⟨resumable_of_exactRanges (Table.ne_empty_of_keys_eq hkeys hsome) hexact hencode, listed,
    hlist, hexact.partitions.trans hkeys⟩

/-- The next plan resumes the one before, in view of what the broker reports to its cycle. -/
theorem resumedBy_of_planCycle {next : Plan} (h : broker.Obliging fair) (hs : fair s)
    (hresumable : plan.Resumable log)
    (hnext : ((planCycle broker log settings plan.checkpoint budget).run s).result = .ok next) :
    ∃ listed earliest, broker.Reports log s listed earliest ∧
      plan.ResumedBy next listed earliest := by
  obtain ⟨_, listed, hlisted, hpartitions⟩ := resumable_of_planCycle h hs hnext
  obtain ⟨checkpoint, listed', known, starts, stops, allocation, s₁, s₂, hread, hlist, -, hchoose,
    hdiscover, -, -, hallocate, hranges, -⟩ := exists_stages_of_planCycle hnext
  have hdecode := readCheckpoint_eq_ok hread
  rw [hresumable.decode] at hdecode
  cases hdecode
  rw [hlisted] at hlist
  cases hlist
  have hs₀ := h.list log s hs
  have hs₁ := h.fair_of_chooseStarts hs₀ hchoose
  -- The plan has ranges, so its checkpoint has entries and the reset strategy is left aside.
  obtain ⟨hempty, -⟩ | ⟨-, hvalidate⟩ := yields_chooseStarts_iff.1 hchoose
  · exact absurd hempty hresumable.not_isEmpty
  obtain ⟨earliest, hearliest, hcomplete, -, hcases⟩ := yields_validateStarts_iff.1 hvalidate
  have hasked := (h.earliest listed _ hs₀).2 earliest hearliest
  rw [hresumable.stale_iff hasked] at hcases
  have hstart : ∀ r' ∈ next.ranges, ∀ offset, known.get? r'.partition = some offset →
      r'.start = offset := by
    intro r' hr' offset hoffset
    rw [hranges] at hr'
    obtain ⟨_, -, hstart, -⟩ := (exactRanges_of_allocate hallocate).bounds r' hr'
    rw [hstart, OffsetTable.startAt, h.get?_of_startDiscovered hs₁ hdiscover hoffset]
    rfl
  refine ⟨listed, earliest, ⟨hlisted, hearliest⟩, hpartitions, ?_, ?_⟩
  · intro hkept r hr r' hr' heq
    obtain ⟨hovertaken, -⟩ | ⟨-, rfl⟩ := hcases
    · exact absurd hovertaken hkept
    · exact hstart r' hr' r.stop (hresumable.get?_iff.2 ⟨r, hr, heq.symm, rfl⟩)
  · intro hovertaken r' hr'
    obtain ⟨-, rfl⟩ | ⟨hkept, -⟩ := hcases
    · have hmem : r'.partition ∈ listed.keys := by
        rw [← hpartitions]
        exact List.mem_map_of_mem hr'
      obtain ⟨offset, hoffset⟩ := Option.isSome_iff_exists.1
        (hcomplete _ (Table.contains_iff_mem_keys.2 hmem))
      rw [hstart r' hr' offset hoffset, hoffset]
    · exact absurd hovertaken hkept

/-- A cycle behind a plan first asks for what `Broker.Reports` tells. -/
theorem calls_prefix_of_planCycle {next : Plan} {listed : PartitionSet} {earliest : OffsetTable}
    (hresumable : plan.Resumable log)
    (hnext : ((planCycle broker log settings plan.checkpoint budget).run s).result = .ok next)
    (hreports : broker.Reports log s listed earliest) :
    [.list log, .earliest listed] <+:
      ((planCycle broker log settings plan.checkpoint budget).run s).calls := by
  obtain ⟨checkpoint, listed', known, _, _, _, s₁, _, hread, hlist, hsome, hchoose, -⟩ :=
    exists_stages_of_planCycle hnext
  have hdecode := readCheckpoint_eq_ok hread
  rw [hresumable.decode] at hdecode
  cases hdecode
  rw [hreports.list_eq] at hlist
  cases hlist
  have hchecked : ¬ listed.isEmpty = true := fun h => hsome (Table.isEmpty_iff.1 h)
  have hcalls : [.earliest listed] <+:
      ((chooseStarts broker settings (.ofRanges log plan.ranges) listed).run
        (broker.list log s).state).calls := by
    rw [chooseStarts, if_neg hresumable.not_isEmpty, validateStarts, askEarliest,
      calls_bind_of_yields (yields_call_iff.2 ⟨hreports.earliest_eq, rfl⟩)]
    exact List.prefix_append _ _
  rw [planCycle, hread, ofExcept_ok, pure_bind_eq, askPartitions,
    calls_bind_of_yields (yields_call_iff.2 ⟨hreports.list_eq, rfl⟩), requireListed,
    if_neg hchecked, pure_bind_eq, calls_bind_of_yields hchoose]
  exact (List.prefix_append_right_inj [.list log]).2 (hcalls.trans (List.prefix_append _ _))

/-- Behind a plan the reset strategy is not consulted. -/
theorem planCycle_withReset (hresumable : plan.Resumable log) (reset : ResetStrategy) :
    planCycle broker log { settings with reset } plan.checkpoint budget =
      planCycle broker log settings plan.checkpoint budget := by
  have hchoose : ∀ listed,
      chooseStarts broker { settings with reset } (.ofRanges log plan.ranges) listed =
        chooseStarts broker settings (.ofRanges log plan.ranges) listed := fun listed => by
    rw [chooseStarts, chooseStarts, if_neg hresumable.not_isEmpty, if_neg hresumable.not_isEmpty]
  cases hread : readCheckpoint log plan.checkpoint with
  | error e =>
    rw [planCycle, planCycle, hread]
    rfl
  | ok c =>
    have hdecode := readCheckpoint_eq_ok hread
    rw [hresumable.decode] at hdecode
    cases hdecode
    rw [planCycle, planCycle, hread]
    simp only [ofExcept_ok, pure_bind_eq, hchoose]

end Cycle

end LogIntake
