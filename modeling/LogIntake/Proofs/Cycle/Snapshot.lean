import LogIntake.Proofs.Allocation.Exact
import LogIntake.Proofs.Broker.Memory
import LogIntake.Proofs.Checkpoint.RoundTrip
import LogIntake.Proofs.Cycle.Stages

/-!
# Cycles over a broker that stands still

While a broker does not change, a cycle comes to what a few equations say about the offsets that
the broker shows: where every listed partition starts, and what the budget gives from there.

## Main definitions

- `Snapshot`: the listed partitions of a log and their two ends.
- `Snapshot.start`: where a cycle starts in a partition.
- `Snapshot.plan`: the plan of a cycle, or why there is none.
- `Broker.Shows`: a broker that stands still and answers from a snapshot.

## Main statements

- `Broker.Shows.exists_yields_chooseStarts`, `Broker.Shows.exists_yields_startDiscovered`: the
  starts that the stages come to.
- `Broker.Shows.result_planCycle`: a cycle comes to the plan of the snapshot.
- `Snapshot.specifies_of_plan`: what that means for ranges and checkpoints.
- `Memory.shows`: a broker in memory stands still.
- `Broker.Shows.planCycle_refines`: all of this for one cycle.
- `planCycle_heeds_unlisted`: what still matters about partitions that are not listed.
-/

namespace LogIntake

open Session

/-! ## What a cycle is to come to -/

/-- What a broker shows about one log. -/
structure Snapshot where
  listed : PartitionSet
  earliest : Partition → Int64
  stop : Partition → Int64

namespace Snapshot

/-- Where the reset strategy starts. -/
def resetStart (snapshot : Snapshot) : ResetStrategy → Partition → Int64
  | .earliest => snapshot.earliest
  | .latest => snapshot.stop

/-- Where a partition starts that a checkpoint leaves out. -/
def discoveredStart (snapshot : Snapshot) : DiscoveredStart → Partition → Int64
  | .zero => fun _ => 0
  | .earliest => snapshot.earliest

/-- Records of a listed partition to which the offsets point are no longer kept. -/
def trimmed (snapshot : Snapshot) (offsets : OffsetTable) : Bool :=
  snapshot.listed.keys.any fun p => (offsets.get? p).any (· < snapshot.earliest p)

/-- Where a cycle starts in a partition, given the offsets of the checkpoint. -/
def start (snapshot : Snapshot) (settings : PlannerSettings) (offsets : OffsetTable)
    (p : Partition) : Int64 :=
  if offsets.isEmpty then snapshot.resetStart settings.reset p
  else if snapshot.trimmed offsets then snapshot.earliest p
  else (offsets.get? p).getD (snapshot.discoveredStart settings.discovered p)

def starts (snapshot : Snapshot) (settings : PlannerSettings) (offsets : OffsetTable) :
    OffsetTable :=
  .tabulate snapshot.listed (snapshot.start settings offsets)

def stops (snapshot : Snapshot) : OffsetTable := .tabulate snapshot.listed snapshot.stop

/-- The plan of a cycle: the allocation from the starts to the ends, and its checkpoint. -/
def plan (snapshot : Snapshot) (log : String) (settings : PlannerSettings)
    (offsets : OffsetTable) (budget : Int64) : Except CycleError Plan :=
  if snapshot.listed.isEmpty then .error (.noPartitions log)
  else
    match allocate (snapshot.starts settings offsets) snapshot.stops budget with
    | .error e => .error (.allocation e)
    | .ok allocation =>
      match (Checkpoint.ofRanges log allocation.ranges).encode with
      | .error e => .error (.encoding e)
      | .ok text => .ok ⟨allocation.ranges, text⟩

/-- The plan of a cycle behind the text of a checkpoint. -/
def planFrom (snapshot : Snapshot) (log : String) (settings : PlannerSettings)
    (previous : String) (budget : Int64) : Except CycleError Plan :=
  match readCheckpoint log previous with
  | .error e => .error e
  | .ok c => snapshot.plan log settings c.offsets budget

variable {snapshot : Snapshot} {settings : PlannerSettings} {offsets offsets' : OffsetTable}

theorem startAt_starts {p : Partition} (hp : snapshot.listed.contains p = true) :
    (snapshot.starts settings offsets).startAt p = snapshot.start settings offsets p := by
  rw [OffsetTable.startAt, starts, Table.get?_tabulate hp]
  rfl

theorem contains_stops (p : Partition) :
    snapshot.stops.contains p = snapshot.listed.contains p :=
  Table.contains_tabulate _ _ _

theorem trimmed_iff_exists :
    snapshot.trimmed offsets = true ↔ ∃ p offset, snapshot.listed.contains p = true ∧
      offsets.get? p = some offset ∧ offset < snapshot.earliest p := by
  simp only [trimmed, List.any_eq_true, Option.any_eq_true, decide_eq_true_eq,
    Table.contains_iff_mem_keys, exists_and_left]

theorem trimmed_iff :
    snapshot.trimmed offsets = true ↔
      Stale offsets (.tabulate snapshot.listed snapshot.earliest) := by
  rw [trimmed_iff_exists]
  constructor
  · rintro ⟨p, offset, hp, hoffset, hlt⟩
    exact ⟨p, offset, _, hoffset, Table.get?_tabulate hp _, hlt⟩
  · rintro ⟨p, offset, kept, hoffset, hkept, hlt⟩
    obtain ⟨hp, rfl⟩ := Table.get?_tabulate_eq_some_iff.1 hkept
    exact ⟨p, offset, hp, hoffset, hlt⟩

/-- An offset that is still kept is where its partition starts. -/
theorem start_of_get? (hkept : ¬ snapshot.trimmed offsets = true) {p : Partition} {offset : Int64}
    (h : offsets.get? p = some offset) : snapshot.start settings offsets p = offset := by
  rw [start, if_neg (Table.not_isEmpty_of_get? h), if_neg hkept, h]
  rfl

/-- Offsets of partitions that are not listed do not matter. -/
theorem start_congr (hempty : offsets.isEmpty = offsets'.isEmpty)
    (hagree : ∀ p, snapshot.listed.contains p = true → offsets.get? p = offsets'.get? p)
    {p : Partition} (hp : snapshot.listed.contains p = true) :
    snapshot.start settings offsets p = snapshot.start settings offsets' p := by
  have htrimmed : snapshot.trimmed offsets = snapshot.trimmed offsets' := by
    rw [Bool.eq_iff_iff, trimmed, trimmed, List.any_eq_true, List.any_eq_true]
    refine exists_congr fun q => and_congr_right fun hq => ?_
    rw [hagree q (Table.contains_iff_mem_keys.2 hq)]
  rw [start, start, hempty, htrimmed, hagree p hp]

theorem plan_congr {log : String} {budget : Int64} (hempty : offsets.isEmpty = offsets'.isEmpty)
    (hagree : ∀ p, snapshot.listed.contains p = true → offsets.get? p = offsets'.get? p) :
    snapshot.plan log settings offsets budget = snapshot.plan log settings offsets' budget := by
  have hallocate : allocate (snapshot.starts settings offsets) snapshot.stops budget =
      allocate (snapshot.starts settings offsets') snapshot.stops budget := by
    refine allocate_congr (fun p hp => ?_) budget
    rw [contains_stops] at hp
    rw [startAt_starts hp, startAt_starts hp, start_congr hempty hagree hp]
  rw [plan, plan, hallocate]

/-- What the first of the two stages makes of the offsets of a checkpoint. -/
def known (snapshot : Snapshot) (settings : PlannerSettings) (offsets : OffsetTable) :
    OffsetTable :=
  if offsets.isEmpty then .tabulate snapshot.listed (snapshot.resetStart settings.reset)
  else if snapshot.trimmed offsets then .tabulate snapshot.listed snapshot.earliest
  else offsets

theorem known_getD {p : Partition} (hp : snapshot.listed.contains p = true) :
    ((snapshot.known settings offsets).get? p).getD
        (snapshot.discoveredStart settings.discovered p) =
      snapshot.start settings offsets p := by
  rw [known, start]
  split
  · rw [Table.get?_tabulate hp]
    rfl
  · split
    · rw [Table.get?_tabulate hp]
      rfl
    · rfl

end Snapshot

/-! ## What the stages come to -/

/-- As long as it is in the states `still`, a broker answers from a snapshot: completely, and only
about the partitions asked for. -/
structure Broker.Shows {σ : Type} (broker : Broker σ) (log : String) (snapshot : Snapshot)
    (still : σ → Prop) : Prop where
  list : ∀ s, still s →
    (broker.list log s).answer = .ok snapshot.listed ∧ still (broker.list log s).state
  earliest : ∀ asked s, still s →
    (∀ p, asked.contains p = true → snapshot.listed.contains p = true) →
      (broker.earliest asked s).answer = .ok (.tabulate asked snapshot.earliest) ∧
        still (broker.earliest asked s).state
  latest : ∀ asked s, still s →
    (∀ p, asked.contains p = true → snapshot.listed.contains p = true) →
      (broker.latest asked s).answer = .ok (.tabulate asked snapshot.stop) ∧
        still (broker.latest asked s).state

theorem complete_tabulate (asked : PartitionSet) (f : Partition → Int64) :
    Complete asked (.tabulate asked f) := by
  intro p hp
  rw [Table.contains_tabulate]
  exact hp

theorem startAt_extend_undecided (known : OffsetTable) (listed : PartitionSet)
    (f : Partition → Int64) {p : Partition} (hp : listed.contains p = true) :
    OffsetTable.startAt (known.extend (Table.tabulate (undecided known listed) f).entries) p =
      (known.get? p).getD (f p) := by
  rw [OffsetTable.startAt, Table.get?_extend_entries]
  cases hoffset : known.get? p with
  | some offset =>
    have hmem : ¬ (Table.tabulate (undecided known listed) f).contains p = true := by
      rw [Table.contains_tabulate]
      intro hfound
      exact (contains_undecided.1 hfound).2 (Table.contains_of_get? hoffset)
    rw [Table.get?_eq_none_iff.2 hmem]
    rfl
  | none =>
    have hmem := contains_undecided.2 ⟨hp, Table.get?_eq_none_iff.1 hoffset⟩
    rw [Table.get?_tabulate hmem]
    rfl

namespace Broker.Shows

variable {σ : Type} {broker : Broker σ} {log : String} {snapshot : Snapshot} {still : σ → Prop}
  {s : σ}

theorem exists_yields_resolveStarts (h : broker.Shows log snapshot still) (hs : still s)
    (reset : ResetStrategy) :
    ∃ s', still s' ∧ Yields (resolveStarts broker reset snapshot.listed) s
      (.tabulate snapshot.listed (snapshot.resetStart reset)) s' := by
  cases reset with
  | earliest =>
    obtain ⟨hanswer, hstill⟩ := h.earliest snapshot.listed s hs fun _ hp => hp
    exact ⟨_, hstill, yields_resolveStarts_iff.2 ⟨hanswer, rfl⟩⟩
  | latest =>
    obtain ⟨hanswer, hstill⟩ := h.latest snapshot.listed s hs fun _ hp => hp
    exact ⟨_, hstill, yields_resolveStarts_iff.2 ⟨hanswer, rfl⟩⟩

theorem exists_yields_chooseStarts (h : broker.Shows log snapshot still) (hs : still s)
    (settings : PlannerSettings) (c : Checkpoint) :
    ∃ s', still s' ∧ Yields (chooseStarts broker settings c snapshot.listed) s
      (snapshot.known settings c.offsets) s' := by
  by_cases hempty : c.offsets.isEmpty = true
  · obtain ⟨s', hstill, hresolve⟩ := h.exists_yields_resolveStarts hs settings.reset
    refine ⟨s', hstill, yields_chooseStarts_iff.2 (.inl ⟨hempty, ?_⟩)⟩
    rw [Snapshot.known, if_pos hempty]
    exact ⟨hresolve, complete_tabulate _ _⟩
  · obtain ⟨hanswer, hstill⟩ := h.earliest snapshot.listed s hs fun _ hp => hp
    refine ⟨_, hstill, yields_chooseStarts_iff.2 (.inr ⟨hempty, ?_⟩)⟩
    refine yields_validateStarts_iff.2 ⟨_, hanswer, complete_tabulate _ _, rfl, ?_⟩
    rw [Snapshot.known, if_neg hempty, ← Snapshot.trimmed_iff]
    by_cases htrimmed : snapshot.trimmed c.offsets = true
    · exact .inl ⟨htrimmed, if_pos htrimmed⟩
    · exact .inr ⟨htrimmed, if_neg htrimmed⟩

/-- Partitions with a start keep it, and all other listed partitions get one by the policy. -/
theorem exists_yields_startDiscovered (h : broker.Shows log snapshot still) (hs : still s)
    (policy : DiscoveredStart) (known : OffsetTable) :
    ∃ starts s', still s' ∧
      Yields (startDiscovered broker policy snapshot.listed known) s starts s' ∧
      ∀ p, snapshot.listed.contains p = true →
        starts.startAt p = (known.get? p).getD (snapshot.discoveredStart policy p) := by
  by_cases hfound : undecided known snapshot.listed = .empty
  · refine ⟨known, s, hs, yields_startDiscovered_iff.2 (.inl ⟨hfound, rfl, rfl⟩), fun p hp => ?_⟩
    have hknown : known.contains p = true := by
      by_cases hcontains : known.contains p = true
      · exact hcontains
      · have hmem := contains_undecided.2 ⟨hp, hcontains⟩
        rw [hfound] at hmem
        cases hmem
    obtain ⟨offset, hoffset⟩ := Option.isSome_iff_exists.1 hknown
    rw [OffsetTable.startAt, hoffset]
    rfl
  · -- Both policies write the values of a function for the partitions found.
    have hextend := fun p =>
      startAt_extend_undecided known snapshot.listed (snapshot.discoveredStart policy) (p := p)
    cases policy with
    | zero =>
      refine ⟨_, s, hs, yields_startDiscovered_iff.2 (.inr ⟨hfound, ?_, rfl⟩), hextend⟩
      rw [Table.tabulate, Table.keys, List.map_map]
      rfl
    | earliest =>
      obtain ⟨hanswer, hstill⟩ := h.earliest (undecided known snapshot.listed) s hs
        fun p hp => (contains_undecided.1 hp).1
      exact ⟨_, _, hstill, yields_startDiscovered_iff.2
        (.inr ⟨hfound, _, hanswer, complete_tabulate _ _, rfl, rfl⟩), hextend⟩

/-- A cycle comes to the plan of the snapshot, or fails as there. -/
theorem result_planCycle (h : broker.Shows log snapshot still) (hs : still s)
    (settings : PlannerSettings) (previous : String) (budget : Int64) :
    ((planCycle broker log settings previous budget).run s).result =
      snapshot.planFrom log settings previous budget := by
  rw [planCycle, Snapshot.planFrom]
  cases readCheckpoint log previous with
  | error e => rfl
  | ok c =>
    obtain ⟨hlist, hs₁⟩ := h.list s hs
    rw [result_bind_of_yields (yields_ofExcept_iff.2 ⟨rfl, rfl⟩), askPartitions,
      result_bind_of_yields (yields_call_iff.2 ⟨hlist, rfl⟩)]
    simp only [Snapshot.plan]
    by_cases hempty : snapshot.listed.isEmpty = true
    · rw [if_pos hempty, requireListed, if_pos hempty]
      rfl
    have hlisted : snapshot.listed ≠ .empty := fun h => hempty (Table.isEmpty_iff.2 h)
    obtain ⟨s₂, hs₂, hchoose⟩ := h.exists_yields_chooseStarts hs₁ settings c
    obtain ⟨starts, s₃, hs₃, hdiscover, hstarts⟩ :=
      h.exists_yields_startDiscovered hs₂ settings.discovered (snapshot.known settings c.offsets)
    obtain ⟨hlatest, -⟩ := h.latest snapshot.listed s₃ hs₃ fun _ hp => hp
    -- The stages may come to other starts than the snapshot for partitions that are not listed.
    have hallocate : allocate starts snapshot.stops budget =
        allocate (snapshot.starts settings c.offsets) snapshot.stops budget := by
      refine allocate_congr (fun p hp => ?_) budget
      rw [Snapshot.contains_stops] at hp
      rw [hstarts p hp, Snapshot.known_getD hp, Snapshot.startAt_starts hp]
    rw [if_neg hempty,
      result_bind_of_yields ((yields_requireListed_iff (u := ())).2 ⟨hlisted, rfl⟩),
      result_bind_of_yields hchoose, result_bind_of_yields hdiscover,
      result_bind_of_yields ((yields_warnDropped_iff (u := ())).2 rfl), askLatest,
      result_bind_of_yields (yields_call_iff.2 ⟨hlatest, rfl⟩),
      result_bind_of_yields ((yields_requireComplete_iff (u := ())).2
        ⟨complete_tabulate _ _, rfl⟩)]
    change ((ofExcept .allocation (allocate starts snapshot.stops budget) >>= _).run _).result = _
    rw [hallocate]
    cases allocate (snapshot.starts settings c.offsets) snapshot.stops budget with
    | error e => rfl
    | ok allocation =>
      rw [result_bind_of_yields (yields_ofExcept_iff.2 ⟨rfl, rfl⟩),
        result_bind_of_yields ((yields_emit_iff (u := ())).2 rfl)]
      simp only
      cases (Checkpoint.ofRanges log allocation.ranges).encode with
      | error e => rfl
      | ok text => rfl

end Broker.Shows

/-! ## What follows for plans -/

/-- A plan that is as the offsets of a snapshot and of a checkpoint ask for. -/
structure Snapshot.Specifies (snapshot : Snapshot) (log : String) (settings : PlannerSettings)
    (offsets : OffsetTable) (budget : Int64) (plan : Plan) : Prop where
  ranges : ∃ allocation,
    allocate (snapshot.starts settings offsets) snapshot.stops budget = .ok allocation ∧
      plan.ranges = allocation.ranges
  partitions : plan.ranges.map (·.partition) = snapshot.listed.keys
  start : ∀ r ∈ plan.ranges, r.start = snapshot.start settings offsets r.partition
  checkpoint : (Checkpoint.ofRanges log plan.ranges).encode = .ok plan.checkpoint

namespace Snapshot

variable {snapshot : Snapshot} {log : String} {settings : PlannerSettings} {offsets : OffsetTable}
  {budget : Int64} {plan : Plan}

theorem specifies_of_plan (h : snapshot.plan log settings offsets budget = .ok plan) :
    snapshot.Specifies log settings offsets budget plan := by
  rw [Snapshot.plan] at h
  split at h
  · cases h
  cases hallocate : allocate (snapshot.starts settings offsets) snapshot.stops budget with
  | error e =>
    rw [hallocate] at h
    cases h
  | ok allocation =>
    simp only [hallocate] at h
    cases hencode : (Checkpoint.ofRanges log allocation.ranges).encode with
    | error e =>
      rw [hencode] at h
      cases h
    | ok text =>
      rw [hencode] at h
      cases h
      have hexact := exactRanges_of_allocate hallocate
      refine ⟨⟨allocation, hallocate, rfl⟩, ?_, fun r hr => ?_, hencode⟩
      · exact hexact.partitions.trans (Table.keys_tabulate _ _)
      · obtain ⟨stop, hstop, hstart, -, -⟩ := hexact.bounds r hr
        have hlisted := Table.contains_of_get? hstop
        rw [contains_stops] at hlisted
        rw [hstart, startAt_starts hlisted]

end Snapshot

/-- Without offsets the text of a checkpoint does not matter, whoever wrote it. -/
theorem planCycle_of_comma_not_mem {σ : Type} (broker : Broker σ) (log : String)
    (settings : PlannerSettings) {text : String} (h : ',' ∉ text.toList) (budget : Int64) :
    planCycle broker log settings text budget = planCycle broker log settings "" budget := by
  obtain ⟨c, hdecode, hempty⟩ := Checkpoint.exists_isEmpty_decode_iff.2 h
  have habsent : Checkpoint.absent.isEmpty = true := rfl
  have hchoose : ∀ listed, chooseStarts broker settings c listed =
      chooseStarts broker settings Checkpoint.absent listed := fun listed => by
    rw [chooseStarts, chooseStarts, if_pos hempty, if_pos habsent]
  have hread : readCheckpoint log "" = .ok Checkpoint.absent := rfl
  rw [planCycle, planCycle, readCheckpoint_of_isEmpty hdecode hempty, hread, ofExcept_ok,
    ofExcept_ok, pure_bind_eq, pure_bind_eq]
  simp only [hchoose]

/-! ## A broker in memory -/

namespace Memory

/-- What a broker in memory shows about a log. -/
def snapshot (m : Memory) (log : String) : Snapshot where
  listed := m.listed log
  earliest p := ((m.partitions.get? p.index).map (·.1)).getD 0
  stop p := ((m.partitions.get? p.index).map (·.2)).getD 0

/-- Without failures and scripts a broker in memory stands still. -/
theorem shows (name log : String) (partitions : Table Int32 (Int64 × Int64)) :
    broker.Shows log ((ofPartitions name partitions).snapshot log)
      (· = ofPartitions name partitions) where
  list := by
    rintro _ rfl
    exact ⟨rfl, rfl⟩
  earliest := by
    rintro asked _ rfl hasked
    exact ⟨congrArg Except.ok (reported_eq_tabulate hasked (·.1)), rfl⟩
  latest := by
    rintro asked _ rfl hasked
    exact ⟨congrArg Except.ok (reported_eq_tabulate hasked (·.2)), rfl⟩

end Memory

/-! ## The refinement -/

/-- Over a broker that stands still, a cycle comes to the plan of the snapshot: it starts where the
reset strategy, the trimmed records, the checkpoint and the policy for new partitions say, and
hands out the budget from there. Of partitions that are not listed it matters at most that the
checkpoint has entries at all, and the text of a checkpoint without entries does not matter. -/
theorem Broker.Shows.planCycle_refines {σ : Type} {broker : Broker σ} {log : String}
    {snapshot : Snapshot} {still : σ → Prop} (h : broker.Shows log snapshot still) {s : σ}
    (hs : still s) (settings : PlannerSettings) (previous : String) (budget : Int64) :
    ((planCycle broker log settings previous budget).run s).result =
        snapshot.planFrom log settings previous budget ∧
      (∀ plan, ((planCycle broker log settings previous budget).run s).result = .ok plan →
        ∃ c, Checkpoint.decode previous = .ok c ∧
          snapshot.Specifies log settings c.offsets budget plan) ∧
      (∀ c other c', readCheckpoint log previous = .ok c → readCheckpoint log other = .ok c' →
        c.isEmpty = c'.isEmpty →
        (∀ p, snapshot.listed.contains p = true → c.offsets.get? p = c'.offsets.get? p) →
          ((planCycle broker log settings previous budget).run s).result =
            ((planCycle broker log settings other budget).run s).result) ∧
      (∀ text, (∃ c, Checkpoint.decode text = .ok c ∧ c.isEmpty = true) ↔ ',' ∉ text.toList) ∧
      ∀ text, ',' ∉ text.toList →
        planCycle broker log settings text budget = planCycle broker log settings "" budget := by
  have hresult := fun text => h.result_planCycle hs settings text budget
  refine ⟨hresult previous, ?_, ?_, fun _ => Checkpoint.exists_isEmpty_decode_iff, ?_⟩
  · intro plan hplan
    rw [hresult, Snapshot.planFrom] at hplan
    cases hread : readCheckpoint log previous with
    | error e =>
      rw [hread] at hplan
      cases hplan
    | ok c =>
      rw [hread] at hplan
      exact ⟨c, readCheckpoint_eq_ok hread, Snapshot.specifies_of_plan hplan⟩
  · intro c other c' hread hread' hempty hagree
    rw [hresult, hresult, Snapshot.planFrom, Snapshot.planFrom, hread, hread']
    exact Snapshot.plan_congr hempty hagree
  · intro text htext
    exact planCycle_of_comma_not_mem broker log settings htext budget

/-- One partition goes on behind its checkpoint, another is new, and a third is gone, about which
the checkpoint need not say anything. -/
theorem planCycle_refines_orders :
    let orders := Memory.ofPartitions "orders" (.ofList [(0, (5, 9)), (1, (0, 3))])
    let result := fun previous =>
      ((planCycle Memory.broker "orders" .standard previous 10).run orders).result
    (result "orders,0:7,2:1").toOption =
        some ⟨[⟨⟨"orders", 0⟩, 7, 9⟩, ⟨⟨"orders", 1⟩, 0, 3⟩], "orders,0:9,1:3"⟩ ∧
      result "orders,0:7,2:1" =
        (orders.snapshot "orders").planFrom "orders" .standard "orders,0:7,2:1" 10 ∧
      result "orders,0:7,2:1" = result "orders,0:7" := by
  intro orders result
  have hshows := Memory.shows "orders" "orders" (.ofList [(0, (5, 9)), (1, (0, 3))])
  let known : OffsetTable := .ofList [(⟨"orders", 0⟩, 7)]
  let all : OffsetTable := known.insert ⟨"orders", 2⟩ 1
  have hread : readCheckpoint "orders" "orders,0:7,2:1" = .ok ⟨"orders", all⟩ := by
    decide +kernel
  have hread' : readCheckpoint "orders" "orders,0:7" = .ok ⟨"orders", known⟩ := by
    decide +kernel
  have hagree : ∀ p ∈ (orders.snapshot "orders").listed.keys, all.get? p = known.get? p := by
    decide +kernel
  obtain ⟨hresult, -, hunlisted, -⟩ :=
    hshows.planCycle_refines rfl .standard "orders,0:7,2:1" 10
  exact ⟨by decide +kernel, hresult, hunlisted _ _ _ hread hread' rfl fun p hp =>
    hagree p (Table.contains_iff_mem_keys.1 hp)⟩

/-- Two checkpoints that agree about the only partition listed, as neither of them has it. Behind the
one with an entry for another partition it is a new partition, which starts at zero. Behind the one
without entries the cycle starts at the end. -/
theorem planCycle_heeds_unlisted :
    let orders := Memory.ofPartitions "orders" (.ofList [(0, (0, 9))])
    let result := fun previous =>
      ((planCycle Memory.broker "orders" .standard previous 10).run orders).result
    let other : Checkpoint := ⟨"orders", .ofList [(⟨"orders", 7⟩, 1)]⟩
    let bare : Checkpoint := ⟨"orders", .empty⟩
    readCheckpoint "orders" "orders,7:1" = .ok other ∧
      readCheckpoint "orders" "orders" = .ok bare ∧
      (∀ p ∈ (orders.snapshot "orders").listed.keys,
        other.offsets.get? p = bare.offsets.get? p) ∧
      result "orders,7:1" = .ok ⟨[⟨⟨"orders", 0⟩, 0, 9⟩], "orders,0:9"⟩ ∧
      result "orders" = .ok ⟨[⟨⟨"orders", 0⟩, 9, 9⟩], "orders,0:9"⟩ := by
  refine ⟨?_, ?_, ?_, ?_, ?_⟩ <;> decide +kernel

end LogIntake
