import LogIntake.Proofs.Cycle.Backlog
import LogIntake.Proofs.Cycle.Retention

/-!
# Skipping an empty plan

A plan without records may be thrown away, and with it the checkpoint that it comes with. The next
cycle then has only the checkpoint before. It starts no later than a cycle behind the plan would
have started, except where that one starts over: then it goes on at its checkpoint.

## Main definitions

- `Snapshot.MovesOnTo`: time has passed between two snapshots of the same partitions.
- `Snapshot.OutdatedBy`: only what a plan has added to a checkpoint is stale.

## Main statements

- `Snapshot.start_le_or_outdated`: where a cycle starts that knows nothing of the plan.
- `Broker.Shows.skip_empty_plan`: the two cycles compared.
- `skip_empty_plan_exceptions`: where they differ.
-/

namespace LogIntake

namespace Snapshot

variable {before after snapshot : Snapshot} {settings : PlannerSettings}
  {offsets next : OffsetTable} {log : String} {budget : Int64} {plan : Plan}

/-! ## Two snapshots -/

/-- The same partitions are listed, and none of their two ends has moved back. -/
structure MovesOnTo (before after : Snapshot) : Prop where
  listed_eq : after.listed = before.listed
  earliest_le : ∀ p, before.listed.contains p = true → before.earliest p ≤ after.earliest p
  stop_le : ∀ p, before.listed.contains p = true → before.stop p ≤ after.stop p

/-- No listed partition starts below zero or behind its end. -/
structure Ordered (snapshot : Snapshot) : Prop where
  earliest_nonneg : ∀ p, snapshot.listed.contains p = true → 0 ≤ snapshot.earliest p
  earliest_le_stop : ∀ p, snapshot.listed.contains p = true →
    snapshot.earliest p ≤ snapshot.stop p

/-- Records that are no longer kept do not come back. -/
theorem MovesOnTo.trimmed (h : before.MovesOnTo after) (htrimmed : before.trimmed offsets = true) :
    after.trimmed offsets = true := by
  obtain ⟨p, offset, hp, hoffset, hlt⟩ := trimmed_iff_exists.1 htrimmed
  refine trimmed_iff_exists.2 ⟨p, offset, ?_, hoffset, ?_⟩
  · rw [h.listed_eq]
    exact hp
  · exact Int64.lt_of_lt_of_le hlt (h.earliest_le p hp)

/-- Behind a checkpoint with an entry for it, no listed partition starts below its earliest
offset. -/
theorem earliest_le_start_of_get? {p : Partition} (hp : snapshot.listed.contains p = true)
    {offset : Int64} (hoffset : offsets.get? p = some offset) :
    snapshot.earliest p ≤ snapshot.start settings offsets p := by
  by_cases htrimmed : snapshot.trimmed offsets = true
  · rw [start, if_neg (Table.not_isEmpty_of_get? hoffset), if_pos htrimmed]
    exact Int64.le_refl _
  · rw [start_of_get? htrimmed hoffset]
    exact earliest_le_of_not_trimmed htrimmed hp hoffset

/-! ## Where the next cycle starts -/

/-- Records to which the offsets point are still kept, but some are not to which the offsets `next`
point for a partition that was added. -/
structure OutdatedBy (snapshot : Snapshot) (offsets next : OffsetTable) : Prop where
  kept : ¬ snapshot.trimmed offsets = true
  outdated : ∃ p offset, snapshot.listed.contains p = true ∧ offsets.get? p = none ∧
    next.get? p = some offset ∧ offset < snapshot.earliest p

/-- Behind the offsets that are outdated all partitions start over. -/
theorem OutdatedBy.start_eq (h : snapshot.OutdatedBy offsets next) (p : Partition) :
    snapshot.start settings next p = snapshot.earliest p := by
  obtain ⟨q, offset, hq, -, hoffset, hlt⟩ := h.outdated
  have htrimmed : snapshot.trimmed next = true := trimmed_iff_exists.2 ⟨q, offset, hq, hoffset, hlt⟩
  rw [start, if_neg (Table.not_isEmpty_of_get? hoffset), if_pos htrimmed]

/-- A cycle starts within the ends if the offsets that it goes on at are within them. -/
theorem Ordered.start_le_stop (hordered : snapshot.Ordered) {p : Partition}
    (hp : snapshot.listed.contains p = true)
    (h : ∀ offset, offsets.get? p = some offset → ¬ snapshot.trimmed offsets = true →
      offset ≤ snapshot.stop p) : snapshot.start settings offsets p ≤ snapshot.stop p := by
  have hends := hordered.earliest_le_stop p hp
  rw [start]
  split
  · cases settings.reset with
    | earliest => exact hends
    | latest => exact Int64.le_refl _
  · split
    · exact hends
    next htrimmed =>
      cases hoffset : offsets.get? p with
      | some offset => exact h offset hoffset htrimmed
      | none =>
        cases settings.discovered with
        | zero => exact Int64.le_trans (hordered.earliest_nonneg p hp) hends
        | earliest => exact hends

section Moves

variable (hmoves : before.MovesOnTo after) (hordered : after.Ordered)

include hmoves hordered

/-- Where the plan behind the offsets was empty and is thrown away, with its offsets `next`, the
next cycle starts no later than behind `next`. Or it goes on at its own offset, while the other
one starts over. -/
theorem start_le_or_outdated (hreset : ¬ (offsets.isEmpty = true ∧ settings.reset = .latest))
    (hnext : ∀ p, before.listed.contains p = true →
      next.get? p = some (before.start settings offsets p))
    {p : Partition} (hp : before.listed.contains p = true) :
    after.start settings offsets p ≤ after.start settings next p ∨
      after.OutdatedBy offsets next ∧
        offsets.get? p = some (after.start settings offsets p) ∧
        after.start settings next p = after.earliest p := by
  have hp' : after.listed.contains p = true := by rwa [hmoves.listed_eq]
  have hearliest : after.earliest p ≤ after.start settings next p :=
    earliest_le_start_of_get? hp' (hnext p hp)
  by_cases hempty : offsets.isEmpty = true
  · -- Without a checkpoint the cycle starts at the earliest offset.
    have hstart : after.start settings offsets p = after.earliest p := by
      rw [start, if_pos hempty]
      cases hstrategy : settings.reset with
      | earliest => rfl
      | latest => exact absurd ⟨hempty, hstrategy⟩ hreset
    rw [hstart]
    exact .inl hearliest
  by_cases htrimmed : after.trimmed offsets = true
  · rw [start, if_neg hempty, if_pos htrimmed]
    exact .inl hearliest
  have hkept : ¬ before.trimmed offsets = true := fun h => htrimmed (hmoves.trimmed h)
  cases hoffset : offsets.get? p with
  | some offset =>
    rw [start_of_get? htrimmed hoffset]
    have hsame : next.get? p = some offset := by
      rw [hnext p hp, start_of_get? hkept hoffset]
    by_cases hstale : after.trimmed next = true
    · -- What is stale in `next` cannot stand in the offsets, as these are kept.
      obtain ⟨q, offset', hq, hoffset', hlt⟩ := trimmed_iff_exists.1 hstale
      have hq' : before.listed.contains q = true := by rwa [← hmoves.listed_eq]
      have hadded : offsets.get? q = none := by
        cases hq₀ : offsets.get? q with
        | none => rfl
        | some o =>
          rw [hnext q hq', start_of_get? hkept hq₀] at hoffset'
          cases hoffset'
          exact absurd (trimmed_iff_exists.2 ⟨q, _, hq, hq₀, hlt⟩) htrimmed
      have houtdated : after.OutdatedBy offsets next :=
        ⟨htrimmed, q, offset', hq, hadded, hoffset', hlt⟩
      exact .inr ⟨houtdated, rfl, houtdated.start_eq p⟩
    · rw [start_of_get? hstale hsame]
      exact .inl (Int64.le_refl offset)
  | none =>
    rw [start, if_neg hempty, if_neg htrimmed, hoffset, Option.getD_none]
    cases settings.discovered with
    | zero => exact .inl (Int64.le_trans (hordered.earliest_nonneg p hp') hearliest)
    | earliest => exact .inl hearliest

/-- What started within the later ends still does. -/
theorem start_le_stop_of_moves
    (hwithin : ∀ p, before.listed.contains p = true →
      before.start settings offsets p ≤ after.stop p)
    {p : Partition} (hp : after.listed.contains p = true) :
    after.start settings offsets p ≤ after.stop p := by
  refine hordered.start_le_stop hp fun offset hoffset hkept => ?_
  have hstart := hwithin p (by rwa [← hmoves.listed_eq])
  rwa [start_of_get? (fun h => hkept (hmoves.trimmed h)) hoffset] at hstart

/-- So does what starts where it started before. -/
theorem start_next_le_stop
    (hnext : ∀ p, before.listed.contains p = true →
      next.get? p = some (before.start settings offsets p))
    (hwithin : ∀ p, before.listed.contains p = true →
      before.start settings offsets p ≤ after.stop p)
    {p : Partition} (hp : after.listed.contains p = true) :
    after.start settings next p ≤ after.stop p := by
  refine hordered.start_le_stop hp fun offset hoffset _ => ?_
  rw [hmoves.listed_eq] at hp
  rw [hnext p hp] at hoffset
  cases hoffset
  exact hwithin p hp

end Moves

/-! ## The plan that is thrown away -/

section Plan

variable (hplan : snapshot.plan log settings offsets budget = .ok plan)

include hplan

theorem listed_ne_empty_of_plan : snapshot.listed ≠ .empty := by
  intro hempty
  rw [Snapshot.plan, if_pos (Table.isEmpty_iff.2 hempty)] at hplan
  cases hplan

theorem exists_range_of_plan {p : Partition} (hp : snapshot.listed.contains p = true) :
    ∃ r ∈ plan.ranges, r.partition = p := by
  rw [Table.contains_iff_mem_keys, ← (specifies_of_plan hplan).partitions] at hp
  exact List.mem_map.1 hp

theorem start_le_stop_of_plan {p : Partition} (hp : snapshot.listed.contains p = true) :
    snapshot.start settings offsets p ≤ snapshot.stop p := by
  obtain ⟨r, hr, rfl⟩ := exists_range_of_plan hplan hp
  obtain ⟨stop, hstop, -, hle, hle'⟩ := (exactRanges_of_plan hplan).bounds r hr
  obtain ⟨-, rfl⟩ := Table.get?_tabulate_eq_some_iff.1 hstop
  rw [← (specifies_of_plan hplan).start r hr]
  exact Int64.le_trans hle hle'

theorem plannable_of_plan : snapshot.Plannable log := by
  have hspecifies := specifies_of_plan hplan
  have hencodable := Checkpoint.encodable_of_encode hspecifies.checkpoint
  refine ⟨hencodable.log_ne_empty, hencodable.comma_not_mem_log, listed_ne_empty_of_plan hplan,
    fun p hp => hencodable.log_eq p ?_⟩
  rw [mem_keys_ofRanges, hspecifies.partitions]
  exact Table.contains_iff_mem_keys.1 hp

/-- The checkpoint of an empty plan stands where the cycle started. -/
theorem get?_ofRanges_of_empty (hempty : ∀ r ∈ plan.ranges, r.start = r.stop) {p : Partition}
    (hp : snapshot.listed.contains p = true) :
    (Checkpoint.ofRanges log plan.ranges).offsets.get? p =
      some (snapshot.start settings offsets p) := by
  obtain ⟨r, hr, rfl⟩ := exists_range_of_plan hplan hp
  rw [← (specifies_of_plan hplan).start r hr, hempty r hr]
  exact (resumable_of_plan hplan (listed_ne_empty_of_plan hplan)).get?_iff.2 ⟨r, hr, rfl, rfl⟩

end Plan

theorem MovesOnTo.plannable (h : before.MovesOnTo after) (hplannable : before.Plannable log) :
    after.Plannable log := by
  obtain ⟨hname, hcomma, hlisted, hlog⟩ := hplannable
  rw [← h.listed_eq] at hlisted hlog
  exact ⟨hname, hcomma, hlisted, hlog⟩

end Snapshot

/-! ## The two cycles -/

/-- Skipping an empty plan loses no records. A cycle that knows nothing of the plan starts in no
partition behind the start of a cycle that is given the checkpoint of the plan. There is one
exception: the plan has added a partition to the checkpoint, and records of this partition were
deleted meanwhile, so that the second cycle starts over in all partitions. Then the first one goes
on at the offset of its checkpoint. Nothing is said for a cycle without a checkpoint that starts at
the ends. -/
theorem Broker.Shows.skip_empty_plan {σ τ : Type} {broker : Broker σ} {broker' : Broker τ}
    {log : String} {before after : Snapshot} {still : σ → Prop} {still' : τ → Prop}
    (h : broker.Shows log before still) (h' : broker'.Shows log after still')
    (hmoves : before.MovesOnTo after) (hordered : after.Ordered) {settings : PlannerSettings}
    {previous : String} {c : Checkpoint} (hdecode : Checkpoint.decode previous = .ok c)
    (hreset : ¬ (c.isEmpty = true ∧ settings.reset = .latest)) {budget : Int64} {s : σ}
    (hs : still s) {skipped : Plan}
    (hskipped : ((planCycle broker log settings previous budget).run s).result = .ok skipped)
    (hempty : skipped.isEmpty = true) {budget₁ budget₂ : Int64} (hbudget₁ : 0 ≤ budget₁)
    (hbudget₂ : 0 ≤ budget₂) {s₁ s₂ : τ} (hs₁ : still' s₁) (hs₂ : still' s₂) :
    ∃ next plan₁ plan₂, Checkpoint.decode skipped.checkpoint = .ok ⟨log, next⟩ ∧
      ((planCycle broker' log settings previous budget₁).run s₁).result = .ok plan₁ ∧
      ((planCycle broker' log settings skipped.checkpoint budget₂).run s₂).result = .ok plan₂ ∧
      plan₁.ranges.map (·.partition) = before.listed.keys ∧
      plan₂.ranges.map (·.partition) = before.listed.keys ∧
      (after.OutdatedBy c.offsets next →
        ∀ r ∈ plan₂.ranges, r.start = after.earliest r.partition) ∧
      ∀ r₁ ∈ plan₁.ranges, ∀ r₂ ∈ plan₂.ranges, r₁.partition = r₂.partition →
        r₁.start ≤ r₂.start ∨
          after.OutdatedBy c.offsets next ∧ c.offsets.get? r₁.partition = some r₁.start ∧
            r₂.start = after.earliest r₂.partition := by
  have hread : readCheckpoint log previous = .ok c := by
    obtain ⟨c', _, _, _, _, _, _, _, hread, -⟩ := exists_stages_of_planCycle hskipped
    have hsame := readCheckpoint_eq_ok hread
    rw [hdecode] at hsame
    cases hsame
    exact hread
  have hstops := (isEmpty_iff_of_planCycle hskipped).1 hempty
  have hplan : before.plan log settings c.offsets budget = .ok skipped := by
    rw [h.result_planCycle hs, Snapshot.planFrom, hread] at hskipped
    exact hskipped
  -- The thrown away checkpoint says for every listed partition where the cycle started.
  set next := (Checkpoint.ofRanges log skipped.ranges).offsets with hnext
  have hnext_get : ∀ p, before.listed.contains p = true →
      next.get? p = some (before.start settings c.offsets p) := fun p hp =>
    Snapshot.get?_ofRanges_of_empty hplan hstops hp
  have hdecode' : Checkpoint.decode skipped.checkpoint = .ok ⟨log, next⟩ :=
    Checkpoint.decode_encode (Snapshot.specifies_of_plan hplan).checkpoint
  have hread' := readCheckpoint_of_log_eq hdecode' rfl
  have hplannable := hmoves.plannable (Snapshot.plannable_of_plan hplan)
  have hwithin : ∀ p, before.listed.contains p = true →
      before.start settings c.offsets p ≤ after.stop p := fun p hp =>
    Int64.le_trans (Snapshot.start_le_stop_of_plan hplan hp) (hmoves.stop_le p hp)
  obtain ⟨plan₁, hplan₁⟩ := Snapshot.exists_plan hplannable
    (fun p => Snapshot.start_le_stop_of_moves hmoves hordered hwithin) hbudget₁
  obtain ⟨plan₂, hplan₂⟩ := Snapshot.exists_plan hplannable
    (fun p => Snapshot.start_next_le_stop hmoves hordered hnext_get hwithin) hbudget₂
  have hspecifies₁ := Snapshot.specifies_of_plan hplan₁
  have hspecifies₂ := Snapshot.specifies_of_plan hplan₂
  refine ⟨next, plan₁, plan₂, hdecode', ?_, ?_, ?_, ?_, fun houtdated r hr => ?_,
    fun r₁ hr₁ r₂ hr₂ hpartition => ?_⟩
  · rw [h'.result_planCycle hs₁, Snapshot.planFrom, hread]
    exact hplan₁
  · rw [h'.result_planCycle hs₂, Snapshot.planFrom, hread']
    exact hplan₂
  · rw [hspecifies₁.partitions, hmoves.listed_eq]
  · rw [hspecifies₂.partitions, hmoves.listed_eq]
  · rw [hspecifies₂.start r hr, houtdated.start_eq]
  · have hp : before.listed.contains r₁.partition = true := by
      rw [Table.contains_iff_mem_keys, ← hmoves.listed_eq, ← hspecifies₁.partitions]
      exact List.mem_map_of_mem hr₁
    rw [hspecifies₁.start r₁ hr₁, hspecifies₂.start r₂ hr₂, ← hpartition]
    exact Snapshot.start_le_or_outdated hmoves hordered hreset hnext_get hp

/-- Partition 1 is new, and it is empty until the plan was thrown away. -/
theorem skip_empty_plan_orders :
    let before := Memory.ofPartitions "orders" (.ofList [(0, (5, 7)), (1, (0, 0))])
    let after := Memory.ofPartitions "orders" (.ofList [(0, (5, 9)), (1, (0, 4))])
    let skipped : Plan := ⟨[⟨⟨"orders", 0⟩, 7, 7⟩, ⟨⟨"orders", 1⟩, 0, 0⟩], "orders,0:7,1:0"⟩
    ((planCycle Memory.broker "orders" .standard "orders,0:7" 100).run before).result =
        .ok skipped ∧
      ∃ plan₁ plan₂ : Plan,
        ((planCycle Memory.broker "orders" .standard "orders,0:7" 100).run after).result =
          .ok plan₁ ∧
        ((planCycle Memory.broker "orders" .standard "orders,0:7,1:0" 100).run after).result =
          .ok plan₂ ∧
        ∀ r₁ ∈ plan₁.ranges, ∀ r₂ ∈ plan₂.ranges, r₁.partition = r₂.partition →
          r₁.start ≤ r₂.start := by
  intro before after skipped
  have hskipped : ((planCycle Memory.broker "orders" .standard "orders,0:7" 100).run
      before).result = .ok skipped := by decide +kernel
  have hdecode : Checkpoint.decode "orders,0:7" =
      .ok ⟨"orders", .ofList [(⟨"orders", 0⟩, 7)]⟩ := by decide +kernel
  have hlisted : (after.snapshot "orders").listed = (before.snapshot "orders").listed := by
    decide +kernel
  have hmoves : ∀ p ∈ (before.snapshot "orders").listed.keys,
      (before.snapshot "orders").earliest p ≤ (after.snapshot "orders").earliest p ∧
        (before.snapshot "orders").stop p ≤ (after.snapshot "orders").stop p := by decide +kernel
  have hordered : ∀ p ∈ (after.snapshot "orders").listed.keys,
      0 ≤ (after.snapshot "orders").earliest p ∧
        (after.snapshot "orders").earliest p ≤ (after.snapshot "orders").stop p := by
    decide +kernel
  have hnext : Checkpoint.decode skipped.checkpoint =
      .ok ⟨"orders", .ofList [(⟨"orders", 0⟩, 7), (⟨"orders", 1⟩, 0)]⟩ := by decide +kernel
  have hkept : ¬ (after.snapshot "orders").trimmed
      (.ofList [(⟨"orders", 0⟩, 7), (⟨"orders", 1⟩, 0)]) = true := by decide +kernel
  have hcontains : ∀ {t : PartitionSet} {p}, t.contains p = true → p ∈ t.keys :=
    Table.contains_iff_mem_keys.1
  obtain ⟨next, plan₁, plan₂, hnext', hplan₁, hplan₂, -, -, -, hstarts⟩ :=
    (Memory.shows "orders" "orders" _).skip_empty_plan (Memory.shows "orders" "orders" _)
      ⟨hlisted, fun p hp => (hmoves p (hcontains hp)).1, fun p hp => (hmoves p (hcontains hp)).2⟩
      ⟨fun p hp => (hordered p (hcontains hp)).1, fun p hp => (hordered p (hcontains hp)).2⟩
      hdecode (by decide +kernel) rfl hskipped (by decide +kernel)
      (show (0 : Int64) ≤ 100 by decide) (show (0 : Int64) ≤ 100 by decide) rfl rfl
  rw [hnext] at hnext'
  cases hnext'
  refine ⟨hskipped, plan₁, plan₂, hplan₁, hplan₂, fun r₁ hr₁ r₂ hr₂ hpartition => ?_⟩
  refine (hstarts r₁ hr₁ r₂ hr₂ hpartition).resolve_right fun ⟨houtdated, _⟩ => hkept ?_
  obtain ⟨p, offset, hp, -, hoffset, hlt⟩ := houtdated.outdated
  exact Snapshot.trimmed_iff_exists.2 ⟨p, offset, hp, hoffset, hlt⟩

/-- Two cycles that do start behind, or before, a cycle that is given the checkpoint of the empty
plan. Without a checkpoint the first one starts at the ends, and by then these have moved on. The
second one goes on at its checkpoint, while the added partition makes the other one start over. -/
theorem skip_empty_plan_exceptions :
    let orders := fun ends => Memory.ofPartitions "orders" (.ofList ends)
    let plan := fun previous ends =>
      ((planCycle Memory.broker "orders" .standard previous 100).run (orders ends)).result
    plan "" [(0, (0, 10))] = .ok ⟨[⟨⟨"orders", 0⟩, 10, 10⟩], "orders,0:10"⟩ ∧
      plan "" [(0, (0, 20))] = .ok ⟨[⟨⟨"orders", 0⟩, 20, 20⟩], "orders,0:20"⟩ ∧
      plan "orders,0:10" [(0, (0, 20))] = .ok ⟨[⟨⟨"orders", 0⟩, 10, 20⟩], "orders,0:20"⟩ ∧
      plan "orders,0:7" [(0, (5, 7)), (1, (0, 0))] =
        .ok ⟨[⟨⟨"orders", 0⟩, 7, 7⟩, ⟨⟨"orders", 1⟩, 0, 0⟩], "orders,0:7,1:0"⟩ ∧
      plan "orders,0:7" [(0, (5, 9)), (1, (3, 4))] =
        .ok ⟨[⟨⟨"orders", 0⟩, 7, 9⟩, ⟨⟨"orders", 1⟩, 0, 4⟩], "orders,0:9,1:4"⟩ ∧
      plan "orders,0:7,1:0" [(0, (5, 9)), (1, (3, 4))] =
        .ok ⟨[⟨⟨"orders", 0⟩, 5, 9⟩, ⟨⟨"orders", 1⟩, 3, 4⟩], "orders,0:9,1:4"⟩ := by
  refine ⟨?_, ?_, ?_, ?_, ?_, ?_⟩ <;> decide +kernel

end LogIntake
