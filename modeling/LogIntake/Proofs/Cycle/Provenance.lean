import LogIntake.Proofs.Cycle.Report

/-!
# Where the offsets of a plan come from

Nothing is assumed about the broker here: it may leave partitions out, answer about others, and
change between any two calls. If there is a plan nevertheless, every listed partition has a range
in it, and the range starts at an offset that the checkpoint or the broker has given for this
partition, or at zero where the policy says so.

## Main definitions

- `Exchange.Gives`: the broker has reported an offset of a partition.
- `StartOrigin`: where a start may come from.
- `Plan.Founded`: a plan that rests on the checkpoint and on what the broker reported.

## Main statements

- `exists_start_of_stages`: every listed partition has a start with an origin.
- `founded_of_planCycle`: every plan is founded.
-/

namespace LogIntake

open Session

variable {σ : Type}

/-- `x.Gives p offset`: the broker has reported the offset for the partition `p`. -/
inductive Exchange.Gives : Exchange → Partition → Int64 → Prop
  | earliest {asked : PartitionSet} {answer : OffsetTable} {p : Partition} {offset : Int64}
      (h : answer.get? p = some offset) : Gives (.earliest asked (.ok answer)) p offset
  | latest {asked : PartitionSet} {answer : OffsetTable} {p : Partition} {offset : Int64}
      (h : answer.get? p = some offset) : Gives (.latest asked (.ok answer)) p offset

/-- Where the start of a partition may come from: from the checkpoint, from an answer, or, if
`known` has no entry for the partition, from the policy to start at zero. -/
inductive StartOrigin (policy : DiscoveredStart) (checkpoint known : OffsetTable)
    (heard : List Exchange) (p : Partition) (offset : Int64) : Prop
  | checkpoint (h : checkpoint.get? p = some offset)
  | answer {x : Exchange} (hx : x ∈ heard) (h : x.Gives p offset)
  | zero (hpolicy : policy = .zero) (hnone : known.get? p = none) (hzero : offset = 0)

theorem StartOrigin.mono {policy : DiscoveredStart} {checkpoint known : OffsetTable}
    {heard heard' : List Exchange} {p : Partition} {offset : Int64}
    (h : StartOrigin policy checkpoint known heard p offset) (hsubset : heard ⊆ heard') :
    StartOrigin policy checkpoint known heard' p offset := by
  cases h with
  | checkpoint h => exact .checkpoint h
  | answer hx h => exact .answer (hsubset hx) h
  | zero hpolicy hnone hzero => exact .zero hpolicy hnone hzero

/-! ## Starts -/

section Stages

variable {broker : Broker σ} {s s₁ s₂ : σ} {listed : PartitionSet} {settings : PlannerSettings}
  {checkpoint : Checkpoint} {known starts : OffsetTable}

/-- The first stage takes its offsets from the checkpoint or from an answer. -/
theorem origin_of_chooseStarts
    (h : Yields (chooseStarts broker settings checkpoint listed) s known s₁) {p : Partition}
    {offset : Int64} (hoffset : known.get? p = some offset) :
    StartOrigin settings.discovered checkpoint.offsets known
      (broker.exchanges s ((chooseStarts broker settings checkpoint listed).run s).calls)
      p offset := by
  obtain ⟨opening, hheard, -, hknown⟩ := exists_opening_of_chooseStarts h
  rw [hheard]
  rcases hknown with ⟨-, rfl⟩ | ⟨-, rfl⟩
  · refine .answer (List.mem_singleton.2 rfl) ?_
    split
    · exact .latest hoffset
    · exact .earliest hoffset
  · exact .checkpoint hoffset

/-- The second stage writes entries for all partitions without a start. A broker that reports more
than it is asked for may replace other starts. -/
theorem exists_added_of_startDiscovered {policy : DiscoveredStart}
    (h : Yields (startDiscovered broker policy listed known) s starts s₂) :
    ∃ added : OffsetTable, starts = known.extend added.entries ∧
      Complete (undecided known listed) added ∧
      ∀ checkpoint p offset, added.get? p = some offset →
        StartOrigin policy checkpoint known
          (broker.exchanges s ((startDiscovered broker policy listed known).run s).calls)
          p offset := by
  rw [calls_startDiscovered]
  rcases yields_startDiscovered_iff.1 h with ⟨hfound, rfl, -⟩ | ⟨hfound, hpolicy⟩
  · refine ⟨.empty, rfl, ?_, nofun⟩
    rw [hfound]
    exact fun _ hp => hp
  · cases policy with
    | zero =>
      refine ⟨.tabulate (undecided known listed) fun _ => 0, ?_, complete_tabulate _ _, ?_⟩
      · rw [hpolicy.1, Table.tabulate, Table.keys, List.map_map]
        rfl
      · intro checkpoint p offset hoffset
        obtain ⟨hp, rfl⟩ := Table.get?_tabulate_eq_some_iff.1 hoffset
        exact .zero rfl (Table.get?_eq_none_iff.2 (contains_undecided.1 hp).2) rfl
    | earliest =>
      obtain ⟨added, hanswer, hcomplete, hstarts, -⟩ := hpolicy
      refine ⟨added, hstarts, hcomplete, fun checkpoint p offset hoffset => ?_⟩
      rw [if_pos ⟨rfl, hfound⟩]
      refine .answer List.mem_cons_self ?_
      rw [Broker.exchange, hanswer]
      exact .earliest hoffset

/-- After both stages every listed partition has a start, and that start has an origin. -/
theorem exists_start_of_stages
    (hchoose : Yields (chooseStarts broker settings checkpoint listed) s known s₁)
    (hdiscover : Yields (startDiscovered broker settings.discovered listed known) s₁ starts s₂)
    {p : Partition} (hp : listed.contains p = true) :
    ∃ offset, starts.get? p = some offset ∧
      StartOrigin settings.discovered checkpoint.offsets known
        (broker.exchanges s ((chooseStarts broker settings checkpoint listed).run s).calls ++
          broker.exchanges s₁
            ((startDiscovered broker settings.discovered listed known).run s₁).calls)
        p offset := by
  obtain ⟨added, rfl, hcomplete, horigin⟩ := exists_added_of_startDiscovered hdiscover
  rw [Table.get?_extend_entries]
  cases hadded : added.get? p with
  | some offset =>
    exact ⟨offset, rfl, (horigin _ p offset hadded).mono (List.subset_append_right _ _)⟩
  | none =>
    -- What the second stage leaves alone was known before it.
    have hdecided : ¬ (undecided known listed).contains p = true := fun hfound =>
      Table.get?_eq_none_iff.1 hadded (hcomplete p hfound)
    have hknown : known.contains p = true := by
      by_contra hnot
      exact hdecided (contains_undecided.2 ⟨hp, hnot⟩)
    obtain ⟨offset, hoffset⟩ := Option.isSome_iff_exists.1 hknown
    refine ⟨offset, hoffset, ?_⟩
    exact (origin_of_chooseStarts hchoose hoffset).mono (List.subset_append_left _ _)

end Stages

/-! ## Plans -/

/-- A plan that rests on the checkpoint and on what the broker reported: `heard` are the answers,
`known` is what the checkpoint came to, and `starts` and `stops` are what was allocated. -/
structure Plan.Founded (plan : Plan) (log : String) (policy : DiscoveredStart)
    (checkpoint : OffsetTable) (heard : List Exchange) (listed : PartitionSet)
    (known starts stops : OffsetTable) : Prop where
  /-- Each listed partition has one range. -/
  existsUnique : ∀ p, listed.contains p = true → ∃! r, r ∈ plan.ranges ∧ r.partition = p
  /-- The range of a listed partition starts where the stages say, not at a default. -/
  start : ∀ r ∈ plan.ranges, listed.contains r.partition = true →
    starts.get? r.partition = some r.start ∧
      StartOrigin policy checkpoint known heard r.partition r.start
  stop_le : ∀ r ∈ plan.ranges, ∃ stop, stops.get? r.partition = some stop ∧
    r.start ≤ r.stop ∧ r.stop ≤ stop
  ascending : plan.ranges.Pairwise fun r r' => compare r.partition r'.partition = .lt
  /-- The next cycle reads where each range stops, and nothing else. It has a checkpoint. -/
  checkpoint : ∃ next, Checkpoint.decode plan.checkpoint = .ok ⟨log, next⟩ ∧
    readCheckpoint log plan.checkpoint = .ok ⟨log, next⟩ ∧
    next.entries = plan.ranges.map (fun r => (r.partition, r.stop)) ∧ next ≠ .empty

theorem ne_empty_of_complete {asked : PartitionSet} {answer : OffsetTable}
    (h : Complete asked answer) (hasked : asked ≠ .empty) : answer ≠ .empty := by
  rintro rfl
  cases hentries : asked.entries with
  | nil => exact hasked (Table.ext_entries hentries)
  | cons e rest =>
    have hcontains : asked.contains e.1 = true := by
      rw [Table.contains_iff_mem_keys, Table.keys, hentries]
      exact List.mem_cons_self
    cases h e.1 hcontains

/-- Ranges in ascending order have one entry each, in that order. -/
theorem Checkpoint.entries_ofRanges (log : String) {ranges : List OffsetRange}
    (h : ranges.Pairwise fun r r' => compare r.partition r'.partition = .lt) :
    (Checkpoint.ofRanges log ranges).offsets.entries =
      ranges.map fun r => (r.partition, r.stop) :=
  Table.entries_ofList (List.pairwise_map.2 h)

/-- What is allocated from starts with an origin is founded. -/
theorem founded_of_exactRanges {plan : Plan} {log : String} {policy : DiscoveredStart}
    {checkpoint known starts stops : OffsetTable} {heard : List Exchange} {listed : PartitionSet}
    {budget : Int64} (hsome : listed ≠ .empty) (hcomplete : Complete listed stops)
    (hexact : ExactRanges starts stops budget plan.ranges)
    (hencode : (Checkpoint.ofRanges log plan.ranges).encode = .ok plan.checkpoint)
    (hstarts : ∀ p, listed.contains p = true → ∃ offset, starts.get? p = some offset ∧
      StartOrigin policy checkpoint known heard p offset) :
    plan.Founded log policy checkpoint heard listed known starts stops := by
  have hresumable := resumable_of_exactRanges (ne_empty_of_complete hcomplete hsome) hexact hencode
  refine ⟨fun p hp => ?_, fun r hr hlisted => ?_, fun r hr => ?_, hexact.ascending, ?_⟩
  · have hrange : p ∈ plan.ranges.map (·.partition) := by
      rw [hexact.partitions, ← Table.contains_iff_mem_keys]
      exact hcomplete p hp
    obtain ⟨r, hr, rfl⟩ := List.mem_map.1 hrange
    exact ⟨r, ⟨hr, rfl⟩, fun r' hr' => hresumable.eq_of_partition_eq hr'.1 hr hr'.2⟩
  · obtain ⟨offset, hoffset, horigin⟩ := hstarts r.partition hlisted
    obtain ⟨_, -, hstart, -⟩ := hexact.bounds r hr
    have hsame : r.start = offset := by
      rw [hstart, OffsetTable.startAt, hoffset]
      rfl
    rw [hsame]
    exact ⟨hoffset, horigin⟩
  · obtain ⟨stop, hstop, -, hle, hle'⟩ := hexact.bounds r hr
    exact ⟨stop, hstop, hle, hle'⟩
  · refine ⟨_, hresumable.decode, readCheckpoint_of_log_eq hresumable.decode rfl,
      Checkpoint.entries_ofRanges log hexact.ascending, fun hempty => ?_⟩
    exact hresumable.not_isEmpty (Table.isEmpty_iff.2 hempty)

/-- The calls of a cycle are those of its survey. -/
theorem calls_planCycle (broker : Broker σ) (s : σ) {log previous : String} {c : Checkpoint}
    (hread : readCheckpoint log previous = .ok c) (settings : PlannerSettings) (budget : Int64) :
    ((planCycle broker log settings previous budget).run s).calls =
      ((survey broker log settings c).run s).calls := by
  rw [planCycle_eq_survey, hread, ofExcept_ok, pure_bind,
    calls_bind_of_silent (silent_assemble log budget)]

/-- Whatever a broker reports, a plan leaves no listed partition out and starts none of them at a
default: each has one range, from an offset of the checkpoint or of an answer, or from zero where
the partition has no other start and the policy says so. No range goes behind the end that was
reported, and the checkpoint of the plan reads back as the stops of its ranges. -/
theorem founded_of_planCycle {broker : Broker σ} {log previous : String}
    {settings : PlannerSettings} {budget : Int64} {s : σ} {plan : Plan}
    (hplan : ((planCycle broker log settings previous budget).run s).result = .ok plan) :
    let heard := broker.exchanges s ((planCycle broker log settings previous budget).run s).calls
    ∃ c listed known starts stops s₁ s₂,
      Checkpoint.decode previous = .ok c ∧
      heard.head? = some (.list log (.ok listed)) ∧
      heard.getLast? = some (.latest listed (.ok stops)) ∧
      Yields (chooseStarts broker settings c listed) (broker.list log s).state known s₁ ∧
      Yields (startDiscovered broker settings.discovered listed known) s₁ starts s₂ ∧
      (∃ allocation, allocate starts stops budget = .ok allocation ∧
        plan.ranges = allocation.ranges) ∧
      plan.Founded log settings.discovered c.offsets heard listed known starts stops := by
  intro heard
  obtain ⟨c, listed, known, starts, stops, allocation, s₁, s₂, hread, hlist, hsome, hchoose,
    hdiscover, hlatest, hcomplete, hallocate, hranges, hencode⟩ := exists_stages_of_planCycle hplan
  have hheard : heard = .list log (.ok listed) ::
      (broker.exchanges (broker.list log s).state
          ((chooseStarts broker settings c listed).run (broker.list log s).state).calls ++
        (broker.exchanges s₁
            ((startDiscovered broker settings.discovered listed known).run s₁).calls ++
          [.latest listed (.ok stops)])) := by
    rw [← exchanges_survey hlist hsome hchoose hdiscover hlatest hcomplete]
    exact congrArg _ (calls_planCycle broker s hread settings budget)
  have hexact := exactRanges_of_allocate hallocate
  rw [← hranges] at hexact
  refine ⟨c, listed, known, starts, stops, s₁, s₂, readCheckpoint_eq_ok hread, ?_, ?_, hchoose,
    hdiscover, ⟨allocation, hallocate, hranges⟩, ?_⟩
  · rw [hheard, List.head?_cons]
  · rw [hheard, ← List.cons_append, ← List.append_assoc, List.getLast?_concat]
  · refine founded_of_exactRanges hsome hcomplete hexact hencode fun p hp => ?_
    obtain ⟨offset, hoffset, horigin⟩ := exists_start_of_stages hchoose hdiscover hp
    refine ⟨offset, hoffset, horigin.mono ?_⟩
    rw [hheard, ← List.append_assoc]
    exact List.subset_cons_of_subset _ (List.subset_append_left _ _)

/-- The broker reports an offset of partition 0 that it was not asked for, and the end of a
partition that it did not list. -/
def ordersAstray : Memory :=
  { Memory.ofPartitions "orders" (.ofList [(0, (5, 9)), (1, (2, 30))]) with
    earliestScript := [none, some (.ok (.ofList [(⟨"orders", 0⟩, 8), (⟨"orders", 1⟩, 2)]))]
    latestScript := [some (.ok (.ofList
      [(⟨"orders", 0⟩, 9), (⟨"orders", 1⟩, 30), (⟨"orders", 4⟩, 2)]))] }

theorem founded_of_planCycle_orders :
    let settings : PlannerSettings := ⟨100, .latest, .earliest⟩
    let outcome := (planCycle Memory.broker "orders" settings "orders,0:7" 10).run ordersAstray
    let plan : Plan := ⟨[⟨⟨"orders", 0⟩, 8, 9⟩, ⟨⟨"orders", 1⟩, 2, 9⟩, ⟨⟨"orders", 4⟩, 0, 2⟩],
      "orders,0:9,1:9,4:2"⟩
    outcome.result = .ok plan ∧
      ∃ listed known starts stops, plan.Founded "orders" .earliest (.ofList [(⟨"orders", 0⟩, 7)])
        (Memory.broker.exchanges ordersAstray outcome.calls) listed known starts stops := by
  intro settings outcome plan
  have hplan : outcome.result = .ok plan := by decide +kernel
  have hdecode : Checkpoint.decode "orders,0:7" =
      .ok ⟨"orders", .ofList [(⟨"orders", 0⟩, 7)]⟩ := by decide +kernel
  obtain ⟨c, listed, known, starts, stops, _, _, hread, -, -, -, -, -, hfounded⟩ :=
    founded_of_planCycle hplan
  rw [hdecode] at hread
  cases hread
  exact ⟨hplan, listed, known, starts, stops, hfounded⟩

end LogIntake
