import LogIntake.Proofs.Allocation.Exact

/-!
# The shape of an allocation

Before the last pass all partitions have got the same number of records, or all that they have.
The last pass raises them by one more share in ascending order until the budget is spent, so that
there are two levels: a high one up to some partition, and a low one behind it.

## Main definitions

- `Unbounded.Lot.AtLevel`: a partition has got its records up to a level.
- `Unbounded.Tiered`: a list of partitions at two levels.
- `Unbounded.Fair`: what holds before and after each pass.
- `TwoTiers`: the two levels as ranges show them.

## Main statements

- `Unbounded.tiered_pass`: a pass splits one level into two.
- `Unbounded.exists_fair_fill`: the passes end with two levels that are at most a share apart.
- `exists_twoTiers_filled`: so do the ranges of an allocation.
-/

namespace LogIntake

open Std

namespace Unbounded

/-- A partition has got its records up to a level, or all if it has fewer. -/
def Lot.AtLevel (level : Int) (a : Lot) : Prop :=
  a.stop - a.start = min (a.cap - a.start) level

/-- A partition has got at least its records up to the low level, and at most those up to the
high one. -/
def Lot.Between (low high : Int) (a : Lot) : Prop :=
  min (a.cap - a.start) low ≤ a.stop - a.start ∧ a.stop - a.start ≤ min (a.cap - a.start) high

/-- Partitions at the high level, then one in between, then partitions at the low level. Any of
these may be missing. -/
inductive Tiered (low high : Int) : List Lot → Prop
  | nil : Tiered low high []
  | boundary {a : Lot} {rest : List Lot} :
      a.Between low high → (∀ b ∈ rest, b.AtLevel low) → Tiered low high (a :: rest)
  | cons {a : Lot} {rest : List Lot} :
      a.AtLevel high → Tiered low high rest → Tiered low high (a :: rest)

theorem tiered_of_atLevel {low high : Int} {lots : List Lot} (h : ∀ a ∈ lots, a.AtLevel high) :
    Tiered low high lots := by
  induction lots with
  | nil => exact .nil
  | cons a rest ih =>
    obtain ⟨ha, hrest⟩ := List.forall_mem_cons.1 h
    exact .cons ha (ih hrest)

/-- Where the two levels are one, all partitions are at it. -/
theorem Tiered.atLevel {level : Int} {lots : List Lot} (h : Tiered level level lots) :
    ∀ a ∈ lots, a.AtLevel level := by
  induction h with
  | nil => exact nofun
  | boundary ha hrest => exact List.forall_mem_cons.2 ⟨Int.le_antisymm ha.2 ha.1, hrest⟩
  | cons ha _ ih => exact List.forall_mem_cons.2 ⟨ha, ih⟩

/-! ## One grant -/

namespace Lot

variable {a : Lot} {level : Int}

/-- A partition that is drained is at every higher level too. -/
theorem AtLevel.of_stop_eq_cap (h : a.AtLevel level) (hstop : a.stop = a.cap) {level' : Int}
    (hle : level ≤ level') : a.AtLevel level' := by
  rw [AtLevel] at h ⊢
  omega

/-- A grant of a share raises a partition by it, if as much is left of the budget. Else the
partition takes all that is left, unless it needs less and so is drained. -/
theorem AtLevel.grow (h : a.AtLevel level) {share left : Int} (hs : 0 ≤ share) (hl : 0 ≤ left) :
    (a.grow (min share left)).AtLevel (level + share) ∨
      (a.grow (min share left)).stop - a.stop = left ∧
        (a.grow (min share left)).Between level (level + share) := by
  have hcap : (a.grow (min share left)).cap = a.cap := rfl
  have hstop := stop_grow a (min share left)
  rw [AtLevel] at h
  rw [AtLevel, Between, start_grow, hcap]
  by_cases hcut : a.cap ≤ a.stop + left ∨ share ≤ left
  · left
    omega
  · right
    omega

end Lot

/-! ## One pass -/

section Pass

variable {budget share spent level : Int} {lots : List Lot}

/-- When nothing is left of the budget, a pass changes no level. -/
theorem atLevel_pass_of_spent (hs : 0 ≤ share) (hl : ∀ a ∈ lots, a.Sound)
    (h : ∀ a ∈ lots, a.AtLevel level) :
    ∀ a ∈ (pass budget share budget lots).2, a.AtLevel level := by
  induction lots with
  | nil => exact h
  | cons a rest ih =>
    obtain ⟨ha, hrest⟩ := List.forall_mem_cons.1 h
    obtain ⟨hsound, hsounds⟩ := List.forall_mem_cons.1 hl
    by_cases hd : a.drained = true
    · rw [pass_cons_drained hd]
      exact List.forall_mem_cons.2 ⟨ha, ih hsounds hrest⟩
    · have hzero : min share (budget - budget) = 0 := by omega
      have hstop : (a.grow 0).stop = a.stop := by
        have hcap := hsound.stop_le_cap
        rw [Lot.stop_grow]
        omega
      have hspent : budget + ((a.grow 0).stop - a.stop) = budget := by omega
      have hgrown : (a.grow 0).AtLevel level := by
        rw [Lot.AtLevel, hstop]
        exact ha
      rw [pass_cons_open hd, hzero]
      simp only
      rw [hspent]
      exact List.forall_mem_cons.2 ⟨hgrown, ih hsounds hrest⟩

/-- A pass raises the partitions from one level to the next as far as the budget goes. -/
theorem tiered_pass (hs : 0 ≤ share) (hb : spent ≤ budget) (hl : ∀ a ∈ lots, a.Sound)
    (h : ∀ a ∈ lots, a.AtLevel level) :
    Tiered level (level + share) (pass budget share spent lots).2 ∧
      ((pass budget share spent lots).1 < budget →
        ∀ a ∈ (pass budget share spent lots).2, a.AtLevel (level + share)) := by
  induction lots generalizing spent with
  | nil => exact ⟨.nil, fun _ => nofun⟩
  | cons a rest ih =>
    obtain ⟨ha, hrest⟩ := List.forall_mem_cons.1 h
    obtain ⟨hsound, hsounds⟩ := List.forall_mem_cons.1 hl
    by_cases hd : a.drained = true
    · obtain ⟨htiered, hlevel⟩ := ih hb hsounds hrest
      have ha' : a.AtLevel (level + share) :=
        ha.of_stop_eq_cap (hsound.stop_eq_cap hd) (by omega)
      rw [pass_cons_drained hd]
      exact ⟨.cons ha' htiered, fun hlt => List.forall_mem_cons.2 ⟨ha', hlevel hlt⟩⟩
    · obtain ⟨-, hnext⟩ := next_spent_le hsound hs hb
      rw [pass_cons_open hd]
      rcases ha.grow hs (Int.sub_nonneg_of_le hb) with ha' | ⟨htakes, hbetween⟩
      · obtain ⟨htiered, hlevel⟩ := ih hnext hsounds hrest
        exact ⟨.cons ha' htiered, fun hlt => List.forall_mem_cons.2 ⟨ha', hlevel hlt⟩⟩
      · -- Here the budget is spent, and the partitions behind get nothing.
        have hspent : spent + ((a.grow (min share (budget - spent))).stop - a.stop) = budget := by
          omega
        have hge : budget ≤ (pass budget share budget rest).1 :=
          (pass_bounds hs (Int.le_refl budget) hsounds).1
        simp only
        rw [hspent]
        exact ⟨.boundary hbetween (atLevel_pass_of_spent hs hsounds hrest), fun hlt =>
          absurd hge (Int.not_le.2 hlt)⟩

end Pass

/-! ## All passes -/

theorem ceilDiv_le_ceilDiv {a a' b b' : Int} (ha' : 0 ≤ a') (hle : a ≤ a') (hb' : 0 < b')
    (hle' : b' ≤ b) : ceilDiv a b ≤ ceilDiv a' b' := by
  have henough : a' ≤ ceilDiv a' b' * b' := le_ceilDiv_mul hb'
  have hmore : ceilDiv a' b' * b' ≤ ceilDiv a' b' * b :=
    Int.mul_le_mul_of_nonneg_left hle' (ceilDiv_nonneg ha' hb')
  have hlt : a + b - 1 < (ceilDiv a' b' + 1) * b := by
    rw [Int.add_mul, Int.one_mul]
    omega
  exact Int.le_of_lt_add_one (Int.ediv_lt_of_lt_mul (by omega) hlt)

/-- What holds before and after each pass: the partitions are at two levels, and at one as long
as some budget is left. The levels are no farther apart than the share that any number of
partitions still open could be given at most. -/
structure Fair (budget spent low high : Int) (lots : List Lot) : Prop where
  low_nonneg : 0 ≤ low
  low_le_high : low ≤ high
  tiered : Tiered low high lots
  level : spent < budget → low = high
  gap : ∀ n : Nat, 0 < n → n ≤ openCount lots → high - low ≤ ceilDiv budget n

/-- A pass starts with one level, and the share is what it may split it by. -/
theorem Fair.exists_pass {budget spent low high : Int} {lots : List Lot}
    (h : Fair budget spent low high lots) (h0 : 0 ≤ spent) (hl : ∀ a ∈ lots, a.Sound)
    (hgo : spent < budget ∧ 0 < openCount lots) :
    let next := pass budget (ceilDiv (budget - spent) (openCount lots)) spent lots
    ∃ low' high', Fair budget next.1 low' high' next.2 := by
  intro next
  obtain rfl := h.level hgo.1
  have hlow := h.low_nonneg
  have hshare : 0 ≤ ceilDiv (budget - spent) (openCount lots) :=
    ceilDiv_nonneg (by omega) (by omega)
  obtain ⟨htiered, hlevel⟩ := tiered_pass hshare (Int.le_of_lt hgo.1) hl h.tiered.atLevel
  by_cases hspent : next.1 < budget
  · refine ⟨_, _, ?_, Int.le_refl _, tiered_of_atLevel (hlevel hspent), fun _ => rfl, ?_⟩
    · omega
    · intro n hn _
      rw [Int.sub_self]
      exact ceilDiv_nonneg (by omega) (by omega)
  · refine ⟨_, _, hlow, ?_, htiered, fun hlt => absurd hlt hspent, ?_⟩
    · omega
    · intro n hn hle
      have hopen : openCount next.2 ≤ openCount lots := openCount_pass_le ..
      have hgap : ceilDiv (budget - spent) (openCount lots) ≤ ceilDiv budget n :=
        ceilDiv_le_ceilDiv (by omega) (by omega) (by omega) (by omega)
      omega

theorem exists_fair_fill {budget spent : Int} {lots : List Lot}
    (h : ∃ low high, Fair budget spent low high lots) (h0 : 0 ≤ spent)
    (hl : ∀ a ∈ lots, a.Sound) :
    ∃ low high, Fair budget (fill budget spent lots).1 low high (fill budget spent lots).2 := by
  fun_induction fill budget spent lots with
  | case1 spent lots hgo share next _ ih =>
    obtain ⟨_, _, hfair⟩ := h
    have hshare : 0 ≤ share := ceilDiv_nonneg (by omega) (by omega)
    obtain ⟨hge, -, hsound⟩ := pass_bounds hshare (Int.le_of_lt hgo.1) hl
    exact ih (hfair.exists_pass h0 hl hgo) (Int.le_trans h0 hge) hsound
  | case2 spent lots hgo share next =>
    obtain ⟨_, _, hfair⟩ := h
    exact hfair.exists_pass h0 hl hgo
  | case3 => exact h

/-! ## The boundary -/

/-- A partition is at the level of its side of the boundary `b`. -/
structure Lot.Placed (low high : Int) (a b : Lot) : Prop where
  before : compare a.partition b.partition = .lt → a.AtLevel high
  on : a.partition = b.partition → a.Between low high
  behind : compare b.partition a.partition = .lt → a.AtLevel low

namespace Lot

variable {low high : Int} {a b : Lot}

theorem Placed.of_lt (hlt : compare a.partition b.partition = .lt) (ha : a.AtLevel high) :
    Placed low high a b where
  before _ := ha
  on heq := absurd heq (Table.ne_of_compare_lt hlt)
  behind hlt' := absurd hlt' (OrientedCmp.not_lt_of_lt hlt)

theorem Placed.self (ha : a.Between low high) : Placed low high a a where
  before hlt := absurd rfl (Table.ne_of_compare_lt hlt)
  on _ := ha
  behind hlt := absurd rfl (Table.ne_of_compare_lt hlt)

theorem Placed.of_gt (hlt : compare b.partition a.partition = .lt) (ha : a.AtLevel low) :
    Placed low high a b where
  before hlt' := absurd hlt' (OrientedCmp.not_lt_of_lt hlt)
  on heq := absurd heq.symm (Table.ne_of_compare_lt hlt)
  behind _ := ha

theorem AtLevel.between (h : a.AtLevel high) (hle : low ≤ high) : a.Between low high := by
  rw [AtLevel] at h
  rw [Between]
  omega

end Lot

/-- In ascending order the two levels meet at a partition. -/
theorem Tiered.exists_boundary {low high : Int} {lots : List Lot} (h : Tiered low high lots)
    (hle : low ≤ high) (hne : lots ≠ [])
    (hasc : lots.Pairwise fun a b => compare a.partition b.partition = .lt) :
    ∃ b ∈ lots, ∀ a ∈ lots, a.Placed low high b := by
  induction h with
  | nil => exact absurd rfl hne
  | @boundary b rest hb hrest =>
    obtain ⟨hbehind, -⟩ := List.pairwise_cons.1 hasc
    refine ⟨b, List.mem_cons_self, List.forall_mem_cons.2 ⟨.self hb, fun a ha => ?_⟩⟩
    exact .of_gt (hbehind a ha) (hrest a ha)
  | @cons a rest ha htiered ih =>
    obtain ⟨hbehind, hasc'⟩ := List.pairwise_cons.1 hasc
    by_cases hlast : rest = []
    · -- All are at the high level, and so is the last one, which serves as the boundary.
      rw [hlast]
      exact ⟨a, List.mem_cons_self, List.forall_mem_singleton.2 (.self (ha.between hle))⟩
    · obtain ⟨b, hb, hplaced⟩ := ih hlast hasc'
      exact ⟨b, List.mem_cons_of_mem a hb,
        List.forall_mem_cons.2 ⟨.of_lt (hbehind b hb) ha, hplaced⟩⟩

end Unbounded

open Unbounded

/-! ## Ranges at two levels -/

/-- The number of records of a partition between its start and its end. -/
def OffsetTable.backlogOf (starts ends : OffsetTable) (p : Partition) : Int :=
  match ends.get? p with
  | some stop => stop.toInt - (starts.startAt p).toInt
  | none => 0

theorem OffsetTable.backlogOf_of_get? {starts ends : OffsetTable} {p : Partition} {stop : Int64}
    (h : ends.get? p = some stop) :
    starts.backlogOf ends p = stop.toInt - (starts.startAt p).toInt := by
  rw [backlogOf, h]

/-- A range does not reach the end of its partition. -/
def OffsetRange.Undrained (ends : OffsetTable) (r : OffsetRange) : Prop :=
  ends.get? r.partition ≠ some r.stop

instance (ends : OffsetTable) (r : OffsetRange) : Decidable (r.Undrained ends) :=
  inferInstanceAs (Decidable (_ ≠ _))

def undrainedCount (ends : OffsetTable) (ranges : List OffsetRange) : Nat :=
  ranges.countP fun r => r.Undrained ends

/-- The partitions before the boundary get their records up to the high level, those behind it
up to the low one, and the boundary is in between. -/
structure TwoTiers (starts ends : OffsetTable) (ranges : List OffsetRange) (low high : Int)
    (boundary : Partition) : Prop where
  low_nonneg : 0 ≤ low
  low_le_high : low ≤ high
  boundary_mem : ends.contains boundary = true
  before : ∀ r ∈ ranges, compare r.partition boundary = .lt →
    r.count = min (starts.backlogOf ends r.partition) high
  on : ∀ r ∈ ranges, r.partition = boundary →
    min (starts.backlogOf ends r.partition) low ≤ r.count ∧
      r.count ≤ min (starts.backlogOf ends r.partition) high
  behind : ∀ r ∈ ranges, compare boundary r.partition = .lt →
    r.count = min (starts.backlogOf ends r.partition) low

section Ranges

variable {starts ends : OffsetTable} {budget : Int64} {ranges : List OffsetRange}
  {r r' : OffsetRange} {low high : Int} {boundary : Partition}

theorem ExactRanges.count_lt_of_undrained (h : ExactRanges starts ends budget ranges)
    (hr : r ∈ ranges) (hundrained : r.Undrained ends) :
    r.count < starts.backlogOf ends r.partition := by
  obtain ⟨stop, hend, hstart, -, hle⟩ := h.bounds r hr
  have hne : r.stop.toInt ≠ stop.toInt := fun heq =>
    hundrained (by rw [hend, Int64.toInt_inj.1 heq])
  rw [Int64.le_iff_toInt_le] at hle
  rw [OffsetTable.backlogOf_of_get? hend, OffsetRange.count, hstart]
  omega

/-- The three places where a partition can be. -/
theorem lt_or_eq_or_gt (p q : Partition) :
    compare p q = .lt ∨ p = q ∨ compare q p = .lt := by
  cases h : compare p q with
  | lt => exact .inl rfl
  | eq => exact .inr (.inl (LawfulEqCmp.eq_of_compare h))
  | gt => exact .inr (.inr (OrientedCmp.lt_of_gt h))

theorem TwoTiers.count_le_high (h : TwoTiers starts ends ranges low high boundary)
    (hr : r ∈ ranges) : r.count ≤ high := by
  have hle := h.low_le_high
  rcases lt_or_eq_or_gt r.partition boundary with hlt | heq | hgt
  · have hcount := h.before r hr hlt
    omega
  · have hcount := (h.on r hr heq).2
    omega
  · have hcount := h.behind r hr hgt
    omega

theorem TwoTiers.low_le_count (h : TwoTiers starts ends ranges low high boundary)
    (hr : r ∈ ranges) (hlt : r.count < starts.backlogOf ends r.partition) : low ≤ r.count := by
  have hle := h.low_le_high
  rcases lt_or_eq_or_gt r.partition boundary with hlt' | heq | hgt
  · have hcount := h.before r hr hlt'
    omega
  · have hcount := (h.on r hr heq).1
    omega
  · have hcount := h.behind r hr hgt
    omega

/-- A partition that does not get all its records gets no fewer than any one behind it. -/
theorem TwoTiers.count_le_of_lt (h : TwoTiers starts ends ranges low high boundary)
    (hr : r ∈ ranges) (hr' : r' ∈ ranges) (hlt : r.count < starts.backlogOf ends r.partition)
    (hbefore : compare r.partition r'.partition = .lt) : r'.count ≤ r.count := by
  by_cases hside : compare r.partition boundary = .lt
  · have hcount := h.before r hr hside
    have hhigh := h.count_le_high hr'
    omega
  · have hbehind : compare boundary r'.partition = .lt := by
      rcases lt_or_eq_or_gt r.partition boundary with hlt' | rfl | hgt
      · exact absurd hlt' hside
      · exact hbefore
      · exact TransCmp.lt_trans hgt hbefore
    have hcount := h.behind r' hr' hbehind
    have hlow := h.low_le_count hr hlt
    omega

end Ranges

namespace Allocation

variable {starts ends : OffsetTable} {budget : Int64}

theorem fair_initialLots (h : Allocatable starts ends budget) :
    Fair budget.toInt 0 0 0 ((initialLots starts ends).map Allotment.unbounded) where
  low_nonneg := Int.le_refl 0
  low_le_high := Int.le_refl 0
  tiered := by
    refine tiered_of_atLevel (List.forall_mem_map.2 (List.forall_mem_map.2 fun e he => ?_))
    have hle := Int64.le_iff_toInt_le.1 (h.start_le_end e.1 e.2 (Table.get?_eq_some_iff.2 he))
    simp only [Lot.AtLevel, Allotment.unbounded, Allotment.initial]
    omega
  level _ := rfl
  gap n hn _ := by
    have hbudget := Int64.le_iff_toInt_le.1 h.budget_nonneg
    rw [Int.sub_self]
    exact ceilDiv_nonneg hbudget (by omega)

/-- Partitions that are placed at a boundary among them have ranges that are. -/
theorem twoTiers_of_placed {lots : List Allotment} {low high : Int} {b : Allotment}
    (hframe : lots.map (fun a => a.unbounded.frame) =
      ends.entries.map fun e => (e.1, (starts.startAt e.1).toInt, e.2.toInt))
    (hlow : 0 ≤ low) (hle : low ≤ high) (hb : b ∈ lots)
    (hplaced : ∀ a ∈ lots, a.unbounded.Placed low high b.unbounded) :
    TwoTiers starts ends (lots.map Allotment.range) low high b.partition := by
  have hbacklog : ∀ a ∈ lots,
      starts.backlogOf ends a.partition = a.cap.toInt - a.start.toInt := fun a ha => by
    obtain ⟨hend, hstart⟩ := exists_entry_of_mem hframe ha
    rw [OffsetTable.backlogOf_of_get? hend, hstart]
  refine ⟨hlow, hle, ?_, ?_, ?_, ?_⟩
  · exact Table.contains_of_get? (exists_entry_of_mem hframe hb).1
  · refine List.forall_mem_map.2 fun a ha hlt => ?_
    rw [Allotment.range, hbacklog a ha]
    exact (hplaced a ha).before hlt
  · refine List.forall_mem_map.2 fun a ha heq => ?_
    rw [Allotment.range, hbacklog a ha]
    exact (hplaced a ha).on heq
  · refine List.forall_mem_map.2 fun a ha hlt => ?_
    rw [Allotment.range, hbacklog a ha]
    exact (hplaced a ha).behind hlt

/-- The passes end with ranges at two levels. -/
theorem exists_twoTiers_filled (h : Allocatable starts ends budget) :
    let lots := (fill budget 0 (initialLots starts ends)).2
    ∃ low high boundary,
      TwoTiers starts ends (lots.map Allotment.range) low high boundary ∧
      ∀ n : Nat, 0 < n → n ≤ openCount lots → high - low ≤ ceilDiv budget.toInt n := by
  intro lots
  obtain ⟨low, high, hfair⟩ := exists_fair_fill ⟨0, 0, fair_initialLots h⟩ (Int.le_refl 0)
    (List.forall_mem_map.2 (initialLots_sound h))
  rw [← map_unbounded_fill h] at hfair
  have hpartitions : lots.map (·.partition) = ends.keys :=
    map_partition_of_map_frame (map_frame_filled h)
  have hasc : (lots.map Allotment.unbounded).Pairwise fun a b =>
      compare a.partition b.partition = .lt := by
    have hkeys := ends.keys_ascending
    rw [← hpartitions] at hkeys
    exact List.pairwise_map.2 (List.pairwise_map.1 hkeys)
  have hne : lots.map Allotment.unbounded ≠ [] := by
    have hlength := congrArg List.length hpartitions
    rw [Table.keys, List.length_map, List.length_map] at hlength
    refine List.ne_nil_of_length_pos ?_
    rw [List.length_map, hlength]
    exact h.size_pos
  obtain ⟨_, hmem, hplaced⟩ := hfair.tiered.exists_boundary hfair.low_le_high hne hasc
  obtain ⟨b, hb, rfl⟩ := List.mem_map.1 hmem
  have hgap := hfair.gap
  rw [openCount_map_unbounded] at hgap
  exact ⟨low, high, b.partition, twoTiers_of_placed (map_frame_filled h) hfair.low_nonneg
    hfair.low_le_high hb (List.forall_mem_map.1 hplaced), hgap⟩

/-- A partition that is not read up to its end is still open. -/
theorem undrainedCount_filled_le (h : Allocatable starts ends budget) :
    let lots := (fill budget 0 (initialLots starts ends)).2
    undrainedCount ends (lots.map Allotment.range) ≤ openCount lots := by
  intro lots
  rw [undrainedCount, List.countP_map, openCount]
  refine List.countP_mono_left fun a ha hundrained => ?_
  have hundrained : ends.get? a.partition ≠ some a.stop := of_decide_eq_true hundrained
  rw [Bool.not_eq_true', ← Bool.not_eq_true]
  intro hdrained
  have hstop : a.stop = a.cap := Int64.toInt_inj.1 ((filled_sound h a ha).stop_eq_cap hdrained)
  rw [hstop] at hundrained
  exact hundrained (exists_entry_of_mem (map_frame_filled h) ha).1

end Allocation

/-- An allocation has two levels, and they are at most as far apart as the share that the
partitions not read up to their ends would get of the whole budget. So such a partition gets no
fewer records than any one behind it, and no partition gets more than that share beyond it. -/
theorem allocate_two_tiers {starts ends : OffsetTable} {budget : Int64} {allocation : Allocation}
    (h : allocate starts ends budget = .ok allocation) :
    let undrained := undrainedCount ends allocation.ranges
    (∃ low high boundary, TwoTiers starts ends allocation.ranges low high boundary ∧
      (0 < undrained → high - low ≤ ceilDiv budget.toInt undrained)) ∧
    ∀ r ∈ allocation.ranges, ∀ r' ∈ allocation.ranges, r.Undrained ends →
      (compare r.partition r'.partition = .lt → r'.count ≤ r.count) ∧
      r'.count - r.count ≤ ceilDiv budget.toInt undrained := by
  intro undrained
  have hallocatable := allocatable_of_allocate h
  have hexact := exactRanges_of_allocate h
  obtain ⟨low, high, boundary, htiers, hgap⟩ : ∃ low high boundary,
      TwoTiers starts ends allocation.ranges low high boundary ∧
      (0 < undrained → high - low ≤ ceilDiv budget.toInt undrained) := by
    obtain ⟨low, high, boundary, htiers, hgap⟩ :=
      Allocation.exists_twoTiers_filled hallocatable
    have hle := Allocation.undrainedCount_filled_le hallocatable
    have hallocation := eq_ofFilled_of_allocate h
    subst hallocation
    exact ⟨low, high, boundary, htiers, fun hpos => hgap undrained hpos hle⟩
  refine ⟨⟨low, high, boundary, htiers, hgap⟩, fun r hr r' hr' hundrained => ⟨?_, ?_⟩⟩
  · exact htiers.count_le_of_lt hr hr' (hexact.count_lt_of_undrained hr hundrained)
  · have hpos : 0 < undrained := List.countP_pos_iff.2 ⟨r, hr, decide_eq_true hundrained⟩
    have hlow := htiers.low_le_count hr (hexact.count_lt_of_undrained hr hundrained)
    have hhigh := htiers.count_le_high hr'
    have hapart := hgap hpos
    omega

/-- The second pass raises four partitions from seven records by two, which is more than there is
for all of them: one gets a single record, and the one behind it none. -/
theorem allocate_two_tiers_orders :
    let ends : OffsetTable :=
      .ofList [(⟨"orders", 0⟩, 5), (⟨"orders", 1⟩, 100), (⟨"orders", 2⟩, 2), (⟨"orders", 3⟩, 100),
        (⟨"orders", 4⟩, 100), (⟨"orders", 5⟩, 100)]
    let ranges : List OffsetRange :=
      [⟨⟨"orders", 0⟩, 0, 5⟩, ⟨⟨"orders", 1⟩, 0, 9⟩, ⟨⟨"orders", 2⟩, 0, 2⟩, ⟨⟨"orders", 3⟩, 0, 9⟩,
        ⟨⟨"orders", 4⟩, 0, 8⟩, ⟨⟨"orders", 5⟩, 0, 7⟩]
    allocate .empty ends 40 = .ok ⟨ranges, 40, 2⟩ ∧
    (∃ low high boundary, TwoTiers .empty ends ranges low high boundary ∧ high - low ≤ 10) ∧
    ∀ r ∈ ranges, ∀ r' ∈ ranges, r.Undrained ends →
      (compare r.partition r'.partition = .lt → r'.count ≤ r.count) ∧ r'.count - r.count ≤ 10 := by
  intro ends ranges
  have hallocate : allocate .empty ends 40 = .ok ⟨ranges, 40, 2⟩ := by decide +kernel
  have hcount : undrainedCount ends ranges = 4 := by decide +kernel
  obtain ⟨⟨low, high, boundary, htiers, hgap⟩, hfair⟩ := allocate_two_tiers hallocate
  simp only [hcount] at hgap hfair
  exact ⟨hallocate, ⟨low, high, boundary, htiers, hgap (by decide)⟩, hfair⟩

end LogIntake
