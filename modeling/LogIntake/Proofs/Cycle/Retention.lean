import LogIntake.Proofs.Cycle.Snapshot

/-!
# What a plan reads is kept

Over a broker that stands still, no range of a plan begins before the first record that is kept
or reaches behind the last one. Whichever way a start offset comes about, the only one that can
be too low is offset zero for a new partition.

## Main definitions

- `Snapshot.Places`: the policy starts no new partition before its first record.

## Main statements

- `Snapshot.earliest_le_start`: every start is kept.
- `Broker.Shows.planCycle_within_kept`: so is every range of a plan.
-/

namespace LogIntake

namespace Snapshot

variable {snapshot : Snapshot} {settings : PlannerSettings} {offsets : OffsetTable}

/-- The policy starts no listed partition that has no start yet before its first record. -/
def Places (snapshot : Snapshot) (settings : PlannerSettings) (offsets : OffsetTable) : Prop :=
  settings.discovered = .earliest ∨
    settings.discovered = .zero ∧ ∀ p, snapshot.listed.contains p = true →
      (snapshot.known settings offsets).get? p = none → snapshot.earliest p ≤ 0

/-- A checkpoint that is not trimmed points to records that are kept. -/
theorem earliest_le_of_not_trimmed (h : ¬ snapshot.trimmed offsets = true) {p : Partition}
    (hp : snapshot.listed.contains p = true) {offset : Int64}
    (hoffset : offsets.get? p = some offset) : snapshot.earliest p ≤ offset := by
  apply Int64.not_lt.1
  intro hlt
  exact h (trimmed_iff_exists.2 ⟨p, offset, hp, hoffset, hlt⟩)

theorem earliest_le_resetStart {p : Partition} (hends : snapshot.earliest p ≤ snapshot.stop p)
    (reset : ResetStrategy) : snapshot.earliest p ≤ snapshot.resetStart reset p := by
  cases reset with
  | earliest => exact Int64.le_refl _
  | latest => exact hends

theorem earliest_le_start (hplaces : snapshot.Places settings offsets) {p : Partition}
    (hp : snapshot.listed.contains p = true) (hends : snapshot.earliest p ≤ snapshot.stop p) :
    snapshot.earliest p ≤ snapshot.start settings offsets p := by
  rw [start]
  by_cases hempty : offsets.isEmpty = true
  · rw [if_pos hempty]
    exact earliest_le_resetStart hends settings.reset
  rw [if_neg hempty]
  by_cases htrimmed : snapshot.trimmed offsets = true
  · rw [if_pos htrimmed]
    exact Int64.le_refl _
  rw [if_neg htrimmed]
  cases hoffset : offsets.get? p with
  | some offset => exact earliest_le_of_not_trimmed htrimmed hp hoffset
  | none =>
    -- Only here the policy decides, as the checkpoint is kept and leaves the partition out.
    rcases hplaces with hpolicy | ⟨hpolicy, hzero⟩
    · rw [hpolicy]
      exact Int64.le_refl _
    · rw [hpolicy]
      apply hzero p hp
      rw [known, if_neg hempty, if_neg htrimmed, hoffset]

theorem bounds_of_plan {log : String} {budget : Int64} {plan : Plan}
    (hends : ∀ p, snapshot.listed.contains p = true → snapshot.earliest p ≤ snapshot.stop p)
    (hplaces : snapshot.Places settings offsets)
    (hplan : snapshot.plan log settings offsets budget = .ok plan) {r : OffsetRange}
    (hr : r ∈ plan.ranges) :
    snapshot.earliest r.partition ≤ r.start ∧ r.start ≤ r.stop ∧
      r.stop ≤ snapshot.stop r.partition := by
  have hspecifies := specifies_of_plan hplan
  obtain ⟨allocation, hallocate, hranges⟩ := hspecifies.ranges
  have hr' := hr
  rw [hranges] at hr'
  obtain ⟨stop, hstop, -, hle, hle'⟩ := (exactRanges_of_allocate hallocate).bounds r hr'
  have hlisted : snapshot.listed.contains r.partition = true := by
    rw [← contains_stops]
    exact Table.contains_of_get? hstop
  rw [stops, Table.get?_tabulate hlisted] at hstop
  cases hstop
  refine ⟨?_, hle, hle'⟩
  rw [hspecifies.start r hr]
  exact earliest_le_start hplaces hlisted (hends _ hlisted)

end Snapshot

/-- Over a broker that stands still, a plan reads only what the broker holds: no range begins before
the first record that is kept, and none reaches behind the last one. This holds for every
checkpoint and both reset strategies. Only where a new partition starts at offset zero, the broker
must still have its first records. -/
theorem Broker.Shows.planCycle_within_kept {σ : Type} {broker : Broker σ} {log : String}
    {snapshot : Snapshot} {still : σ → Prop} (h : broker.Shows log snapshot still) {s : σ}
    (hs : still s)
    (hends : ∀ p, snapshot.listed.contains p = true → snapshot.earliest p ≤ snapshot.stop p)
    {settings : PlannerSettings} {previous : String} {checkpoint : Checkpoint}
    (hdecode : Checkpoint.decode previous = .ok checkpoint)
    (hplaces : snapshot.Places settings checkpoint.offsets) {budget : Int64} {plan : Plan}
    (hplan : ((planCycle broker log settings previous budget).run s).result = .ok plan) :
    ∀ r ∈ plan.ranges, snapshot.earliest r.partition ≤ r.start ∧ r.start ≤ r.stop ∧
      r.stop ≤ snapshot.stop r.partition := by
  intro r hr
  rw [h.result_planCycle hs, Snapshot.planFrom] at hplan
  cases hread : readCheckpoint log previous with
  | error e =>
    rw [hread] at hplan
    cases hplan
  | ok c =>
    have hsame := readCheckpoint_eq_ok hread
    rw [hdecode] at hsame
    cases hsame
    rw [hread] at hplan
    exact Snapshot.bounds_of_plan hends hplaces hplan hr

/-- One partition of the checkpoint is gone, one goes on, and a new one still has its first
records. -/
theorem planCycle_within_kept_orders :
    let orders := Memory.ofPartitions "orders" (.ofList [(0, (5, 9)), (1, (0, 30))])
    let ranges : List OffsetRange := [⟨⟨"orders", 0⟩, 7, 9⟩, ⟨⟨"orders", 1⟩, 0, 8⟩]
    ((planCycle Memory.broker "orders" .standard "orders,0:7,2:1" 10).run orders).result =
        .ok ⟨ranges, "orders,0:9,1:8"⟩ ∧
      ∀ r ∈ ranges, (orders.snapshot "orders").earliest r.partition ≤ r.start ∧
        r.start ≤ r.stop ∧ r.stop ≤ (orders.snapshot "orders").stop r.partition := by
  intro orders ranges
  have hplan : ((planCycle Memory.broker "orders" .standard "orders,0:7,2:1" 10).run
      orders).result = .ok ⟨ranges, "orders,0:9,1:8"⟩ := by decide +kernel
  have hdecode : Checkpoint.decode "orders,0:7,2:1" =
      .ok ⟨"orders", .ofList [(⟨"orders", 0⟩, 7), (⟨"orders", 2⟩, 1)]⟩ := by decide +kernel
  have hends : ∀ p ∈ (orders.snapshot "orders").listed.keys,
      (orders.snapshot "orders").earliest p ≤ (orders.snapshot "orders").stop p := by
    decide +kernel
  have hfirst : ∀ p ∈ (orders.snapshot "orders").listed.keys,
      ((orders.snapshot "orders").known .standard
        (.ofList [(⟨"orders", 0⟩, 7), (⟨"orders", 2⟩, 1)])).get? p = none →
          (orders.snapshot "orders").earliest p ≤ 0 := by decide +kernel
  refine ⟨hplan, ?_⟩
  exact (Memory.shows "orders" "orders" _).planCycle_within_kept rfl
    (fun p hp => hends p (Table.contains_iff_mem_keys.1 hp)) hdecode
    (.inr ⟨rfl, fun p hp => hfirst p (Table.contains_iff_mem_keys.1 hp)⟩) hplan

end LogIntake
