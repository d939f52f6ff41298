import LogIntake.Proofs.Allocation.Fairness

/-!
# Partitions with no more than an equal share

The share of the first pass is the budget divided by the number of partitions, rounded up, and the
partitions are served in ascending order. So the first partitions may take what rounding has
added, and then the last ones find less than an equal share, even if they ask for no more. How
much a partition finds is decided by those before it.

## Main definitions

- `Unbounded.demand`: what partitions take if each is granted a share.
- `OffsetTable.demandBefore`: what the partitions before one take.

## Main statements

- `Unbounded.pass_spent_eq_min`: a pass spends what the partitions take, up to the budget.
- `Unbounded.exists_served_of_mem_fill`: the first pass decides about a partition that asks for at
  most a share.
- `Allocation.count_filled_of_backlogOf_le`: what such a partition gets of an allocation.
- `OffsetTable.ediv_le_of_dvd`: an even division leaves an equal share for everyone.
-/

namespace LogIntake

open Std

namespace Unbounded

/-- The number of records that partitions take if each is granted a share. -/
def demand (share : Int) (lots : List Lot) : Int :=
  (lots.map fun a => min (a.cap - a.stop) share).sum

@[simp]
theorem demand_nil (share : Int) : demand share [] = 0 := rfl

@[simp]
theorem demand_cons (share : Int) (a : Lot) (rest : List Lot) :
    demand share (a :: rest) = min (a.cap - a.stop) share + demand share rest := by
  simp [demand]

theorem demand_append (share : Int) (lots lots' : List Lot) :
    demand share (lots ++ lots') = demand share lots + demand share lots' := by
  simp [demand]

theorem demand_nonneg {share : Int} {lots : List Lot} (hs : 0 ≤ share)
    (hl : ∀ a ∈ lots, a.Sound) : 0 ≤ demand share lots := by
  induction lots with
  | nil => exact Int.le_refl 0
  | cons a rest ih =>
    obtain ⟨ha, hrest⟩ := List.forall_mem_cons.1 hl
    have hcap := ha.stop_le_cap
    have hnext := ih hrest
    rw [demand_cons]
    omega

theorem ediv_le_ceilDiv {a b : Int} (hb : 0 < b) : a / b ≤ ceilDiv a b :=
  Int.ediv_le_ediv hb (by omega)

theorem ceilDiv_eq_ediv_of_dvd {a b : Int} (hb : 0 < b) (h : b ∣ a) : ceilDiv a b = a / b := by
  obtain ⟨c, rfl⟩ := h
  rw [ceilDiv, show b * c + b - 1 = b - 1 + b * c by omega,
    Int.add_mul_ediv_left _ _ (by omega), Int.ediv_eq_zero_of_lt (by omega) (by omega),
    Int.mul_ediv_cancel_left _ (by omega), Int.zero_add]

/-! ## One pass -/

section Pass

variable {budget share spent : Int} {lots : List Lot}

/-- A grant spends what the partition takes, as far as the budget goes. -/
theorem next_spent_eq_min (budget share spent : Int) (a : Lot) :
    spent + ((a.grow (min share (budget - spent))).stop - a.stop) =
      min budget (spent + min (a.cap - a.stop) share) := by
  rw [Lot.stop_grow]
  omega

/-- Cutting to the budget on the way changes nothing. -/
theorem min_min_add {budget a b : Int} (hb : 0 ≤ b) :
    min budget (min budget a + b) = min budget (a + b) := by
  omega

/-- A pass spends what the partitions take, as far as the budget goes. -/
theorem pass_spent_eq_min (hs : 0 ≤ share) (hb : spent ≤ budget) (hl : ∀ a ∈ lots, a.Sound) :
    (pass budget share spent lots).1 = min budget (spent + demand share lots) := by
  induction lots generalizing spent with
  | nil =>
    rw [pass, demand_nil]
    omega
  | cons a rest ih =>
    obtain ⟨ha, hrest⟩ := List.forall_mem_cons.1 hl
    have hnonneg := demand_nonneg hs hrest
    rw [demand_cons]
    by_cases hd : a.drained = true
    · have hstop := ha.stop_eq_cap hd
      rw [pass_cons_drained hd, ih hb hrest]
      omega
    · rw [pass_cons_open hd]
      simp only
      rw [next_spent_eq_min, ih (Int.min_le_left _ _) hrest, min_min_add hnonneg, Int.add_assoc]

/-- A partition gets what it takes of a share, or what the partitions before it have left. -/
theorem exists_served_of_mem_pass (hs : 0 ≤ share) (hb : spent ≤ budget)
    (hl : ∀ a ∈ lots, a.Sound) {a' : Lot} (ha' : a' ∈ (pass budget share spent lots).2) :
    ∃ before a behind, lots = before ++ a :: behind ∧ a'.frame = a.frame ∧
      a'.stop = a.stop + min (min (a.cap - a.stop) share)
        (budget - min budget (spent + demand share before)) := by
  induction lots generalizing spent with
  | nil => cases ha'
  | cons a rest ih =>
    obtain ⟨ha, hrest⟩ := List.forall_mem_cons.1 hl
    by_cases hd : a.drained = true
    · have hstop := ha.stop_eq_cap hd
      rw [pass_cons_drained hd] at ha'
      rcases List.mem_cons.1 ha' with rfl | ha'
      · refine ⟨[], a', rest, rfl, rfl, ?_⟩
        rw [demand_nil]
        omega
      · obtain ⟨before, b, behind, rfl, hframe, hserved⟩ := ih hb hrest ha'
        refine ⟨a :: before, b, behind, rfl, hframe, ?_⟩
        rw [hserved, demand_cons]
        omega
    · rw [pass_cons_open hd] at ha'
      rcases List.mem_cons.1 ha' with rfl | ha'
      · refine ⟨[], a, rest, rfl, rfl, ?_⟩
        rw [demand_nil, Lot.stop_grow]
        omega
      · rw [next_spent_eq_min] at ha'
        obtain ⟨before, b, behind, rfl, hframe, hserved⟩ := ih (Int.min_le_left _ _) hrest ha'
        have hnonneg : 0 ≤ demand share before := demand_nonneg hs fun c hc =>
          hrest c (List.mem_append_left _ hc)
        refine ⟨a :: before, b, behind, rfl, hframe, ?_⟩
        rw [hserved, demand_cons, min_min_add hnonneg, Int.add_assoc]

/-- No partition loses records in a pass. -/
theorem exists_le_of_mem_pass (hs : 0 ≤ share) (hb : spent ≤ budget) (hl : ∀ a ∈ lots, a.Sound)
    {a' : Lot} (ha' : a' ∈ (pass budget share spent lots).2) :
    ∃ a ∈ lots, a'.frame = a.frame ∧ a.stop ≤ a'.stop := by
  obtain ⟨before, a, behind, rfl, hframe, hserved⟩ := exists_served_of_mem_pass hs hb hl ha'
  have ha : a ∈ before ++ a :: behind := List.mem_append_right _ List.mem_cons_self
  have hcap := (hl a ha).stop_le_cap
  exact ⟨a, ha, hframe, by omega⟩

/-- Where a pass leaves something of the budget, every partition has got what it takes. -/
theorem demand_add_le_of_spent_lt (hs : 0 ≤ share) (hb : spent ≤ budget) {before behind : List Lot}
    {a : Lot} (hl : ∀ b ∈ before ++ a :: behind, b.Sound)
    (hlt : (pass budget share spent (before ++ a :: behind)).1 < budget) :
    spent + demand share before + min (a.cap - a.stop) share ≤ budget := by
  have hbehind : 0 ≤ demand share behind := demand_nonneg hs fun b hb =>
    hl b (List.mem_append_right _ (List.mem_cons_of_mem a hb))
  rw [pass_spent_eq_min hs hb hl, demand_append, demand_cons] at hlt
  omega

end Pass

/-! ## All passes -/

section Fill

variable {budget spent : Int} {lots : List Lot}

theorem fill_of_spent (budget : Int) (lots : List Lot) :
    fill budget budget lots = (budget, lots) := by
  rw [fill, if_neg fun hgo => Int.lt_irrefl budget hgo.1]

/-- The passes are the first one and those after it. -/
theorem fill_eq_fill_next (hgo : spent < budget ∧ 0 < openCount lots) :
    let next := pass budget (ceilDiv (budget - spent) (openCount lots)) spent lots
    fill budget spent lots = fill budget next.1 next.2 := by
  intro next
  rw [fill, if_pos hgo]
  rcases openCount_pass_lt_or_spent (Int.le_of_lt hgo.1) hgo.2 with hlt | hspent
  · exact if_pos hlt
  · by_cases hlt : openCount next.2 < openCount lots
    · exact if_pos hlt
    · have hnext : fill budget next.1 next.2 = next := by
        rw [hspent, fill_of_spent, ← hspent]
      rw [hnext]
      exact if_neg hlt

theorem exists_le_of_mem_fill (hb : spent ≤ budget) (hl : ∀ a ∈ lots, a.Sound) :
    ∀ a' ∈ (fill budget spent lots).2, ∃ a ∈ lots, a'.frame = a.frame ∧ a.stop ≤ a'.stop := by
  fun_induction fill budget spent lots with
  | case1 spent lots hgo share next _ ih =>
    have hshare : 0 ≤ share := ceilDiv_nonneg (by omega) (by omega)
    obtain ⟨_, hle, hsound⟩ := pass_bounds hshare hb hl
    intro a'' ha''
    obtain ⟨a', ha', hframe', hle'⟩ := ih hle hsound a'' ha''
    obtain ⟨a, ha, hframe, hle⟩ := exists_le_of_mem_pass hshare hb hl ha'
    exact ⟨a, ha, hframe'.trans hframe, Int.le_trans hle hle'⟩
  | case2 spent lots hgo share next =>
    have hshare : 0 ≤ share := ceilDiv_nonneg (by omega) (by omega)
    exact fun a' ha' => exists_le_of_mem_pass hshare hb hl ha'
  | case3 spent lots => exact fun a ha => ⟨a, ha, rfl, Int.le_refl _⟩

/-- The first pass decides about a partition that lacks at most a share: if it does not get all
of it, then the budget is spent. -/
theorem exists_served_of_mem_fill (hb : spent ≤ budget) (hopen : 0 < openCount lots)
    (hl : ∀ a ∈ lots, a.Sound) :
    let share := ceilDiv (budget - spent) (openCount lots)
    ∀ a' ∈ (fill budget spent lots).2, ∃ before a behind,
      lots = before ++ a :: behind ∧ a'.frame = a.frame ∧
      (a.cap - a.stop ≤ share → a'.stop =
        a.stop + min (a.cap - a.stop) (budget - min budget (spent + demand share before))) := by
  intro share a' ha'
  have hshare : 0 ≤ share := ceilDiv_nonneg (by omega) (by omega)
  have hsound' : a'.Sound := (fill_bounds hb hl).2 a' ha'
  by_cases hlt : spent < budget
  · rw [fill_eq_fill_next ⟨hlt, hopen⟩] at ha'
    obtain ⟨_, hnext, hsound⟩ := pass_bounds hshare hb hl
    by_cases hall : (pass budget share spent lots).1 = budget
    · rw [hall, fill_of_spent] at ha'
      obtain ⟨before, a, behind, hlots, hframe, hserved⟩ :=
        exists_served_of_mem_pass hshare hb hl ha'
      refine ⟨before, a, behind, hlots, hframe, fun hsmall => ?_⟩
      rw [hserved, Int.min_eq_left hsmall]
    · -- Something is left for the next pass, so the partition has got all that it lacked.
      obtain ⟨b, hmem, hframe', hle⟩ := exists_le_of_mem_fill hnext hsound a' ha'
      obtain ⟨before, a, behind, rfl, hframe, hserved⟩ :=
        exists_served_of_mem_pass hshare hb hl hmem
      refine ⟨before, a, behind, rfl, hframe'.trans hframe, fun hsmall => ?_⟩
      have hcap : a'.cap = a.cap := congrArg (·.2.2) (hframe'.trans hframe)
      have hle' := hsound'.stop_le_cap
      have hfits := demand_add_le_of_spent_lt hshare hb hl (Int.lt_iff_le_and_ne.2 ⟨hnext, hall⟩)
      rw [Int.min_eq_left hsmall] at hserved hfits
      have hleft : a.cap - a.stop ≤ budget - min budget (spent + demand share before) := by omega
      rw [Int.min_eq_left hleft] at hserved ⊢
      omega
  · have hspent : spent = budget := Int.le_antisymm hb (Int.not_lt.1 hlt)
    rw [hspent, fill_of_spent] at ha'
    obtain ⟨before, behind, rfl⟩ := List.append_of_mem ha'
    have hbefore : 0 ≤ demand share before := demand_nonneg hshare fun c hc =>
      hl c (List.mem_append_left _ hc)
    have hcap := hsound'.stop_le_cap
    exact ⟨before, a', behind, rfl, rfl, fun _ => by omega⟩

end Fill

end Unbounded

open Unbounded

/-! ## Equal shares of words -/

/-- What the partitions before one take if each is granted a share. -/
def OffsetTable.demandBefore (starts ends : OffsetTable) (share : Int) (p : Partition) : Int :=
  ((ends.filter fun q _ => compare q p = .lt).keys.map fun q =>
    min (starts.backlogOf ends q) share).sum

/-- In ascending order the entries with lesser keys are those before an entry. -/
theorem Table.filter_lt_of_ascending {κ α : Type} [Ord κ] [TransOrd κ] [LawfulEqOrd κ]
    {before behind : List (κ × α)} {e : κ × α}
    (h : (before ++ e :: behind).Pairwise fun e e' => compare e.1 e'.1 = .lt) :
    (before ++ e :: behind).filter (fun e' => compare e'.1 e.1 = .lt) = before := by
  obtain ⟨-, hsuffix, hbefore⟩ := List.pairwise_append.1 h
  obtain ⟨hbehind, -⟩ := List.pairwise_cons.1 hsuffix
  have hkept : before.filter (fun e' => compare e'.1 e.1 = .lt) = before :=
    List.filter_eq_self.2 fun e' he' => decide_eq_true (hbefore e' he' e List.mem_cons_self)
  have hdropped : (e :: behind).filter (fun e' => compare e'.1 e.1 = .lt) = [] := by
    refine List.filter_eq_nil_iff.2 (List.forall_mem_cons.2 ⟨fun hlt => ?_, fun e' he' hlt => ?_⟩)
    · exact ne_of_compare_lt (of_decide_eq_true hlt) rfl
    · exact OrientedCmp.not_lt_of_lt (hbehind e' he') (of_decide_eq_true hlt)
  rw [List.filter_append, hkept, hdropped, List.append_nil]

namespace Allocation

variable {starts ends : OffsetTable} {budget : Int64}

theorem stop_eq_start_of_mem_initialLots (starts ends : OffsetTable) :
    ∀ a ∈ (initialLots starts ends).map Allotment.unbounded, a.stop = a.start :=
  List.forall_mem_map.2 (List.forall_mem_map.2 fun _ _ => rfl)

/-- Before the first pass a partition asks for its backlog. -/
theorem demand_initialLots {before behind : List Lot} {a : Lot}
    (h : (initialLots starts ends).map Allotment.unbounded = before ++ a :: behind)
    (share : Int) : demand share before = starts.demandBefore ends share a.partition := by
  rw [initialLots, List.map_map] at h
  obtain ⟨entries, _, hentries, rfl, hrest⟩ := List.map_eq_append_iff.1 h
  obtain ⟨e, _, rfl, rfl, -⟩ := List.map_eq_cons_iff.1 hrest
  have hfilter : (ends.filter fun q _ => compare q e.1 = .lt).entries = entries := by
    have hasc := ends.ascending
    rw [hentries] at hasc
    have hbefore := Table.filter_lt_of_ascending hasc
    rw [← hentries] at hbefore
    exact hbefore
  change _ = starts.demandBefore ends share e.1
  rw [demand, OffsetTable.demandBefore, Table.keys, hfilter, List.map_map, List.map_map]
  refine congrArg List.sum (List.map_congr_left fun e' he' => ?_)
  have hend : ends.get? e'.1 = some e'.2 := by
    rw [Table.get?_eq_some_iff, hentries]
    exact List.mem_append_left _ he'
  simp only [Function.comp_apply]
  rw [OffsetTable.backlogOf_of_get? hend]
  rfl

/-- A partition that asks for no more than a share gets all of it, or what those before it have
left. -/
theorem count_filled_of_backlogOf_le (h : Allocatable starts ends budget) {a : Allotment}
    (ha : a ∈ (fill budget 0 (initialLots starts ends)).2)
    (hsmall : starts.backlogOf ends a.partition ≤ ceilDiv budget.toInt ends.size) :
    a.range.count = min (starts.backlogOf ends a.partition) (max 0 (budget.toInt -
      starts.demandBefore ends (ceilDiv budget.toInt ends.size) a.partition)) := by
  have hbudget : 0 ≤ budget.toInt := Int64.le_iff_toInt_le.1 h.budget_nonneg
  have hopen : Unbounded.openCount ((initialLots starts ends).map Allotment.unbounded) =
      ends.size := by
    rw [openCount_map_unbounded, openCount_initialLots]
  have hmem : a.unbounded ∈
      (Unbounded.fill budget.toInt 0 ((initialLots starts ends).map Allotment.unbounded)).2 := by
    rw [← map_unbounded_fill h]
    exact List.mem_map_of_mem ha
  obtain ⟨before, b, behind, hlots, hframe, hserved⟩ := exists_served_of_mem_fill hbudget
    (hopen ▸ h.size_pos) (List.forall_mem_map.2 (initialLots_sound h)) _ hmem
  have hfresh : b.stop = b.start := by
    refine stop_eq_start_of_mem_initialLots starts ends b ?_
    rw [hlots]
    exact List.mem_append_right _ List.mem_cons_self
  obtain ⟨hpartition, hstart, hcap⟩ : a.partition = b.partition ∧ a.start.toInt = b.start ∧
      a.cap.toInt = b.cap := by
    simpa [Lot.frame, Allotment.unbounded] using hframe
  have hbacklog : starts.backlogOf ends a.partition = b.cap - b.start := by
    obtain ⟨hend, hstart'⟩ := exists_entry_of_mem (map_frame_filled h) ha
    rw [OffsetTable.backlogOf_of_get? hend, ← hstart', hstart, hcap]
  rw [hopen, demand_initialLots hlots, ← hpartition, Int.sub_zero, Int.zero_add] at hserved
  have hstop : a.stop.toInt = _ := hserved (by omega)
  change a.stop.toInt - a.start.toInt = _
  omega

end Allocation

section Ranges

variable {starts ends : OffsetTable} {budget : Int64} {ranges : List OffsetRange}
  {r : OffsetRange}

/-- A partition is read up to its end if and only if its whole backlog is. -/
theorem ExactRanges.get?_eq_stop_iff (h : ExactRanges starts ends budget ranges)
    (hr : r ∈ ranges) :
    ends.get? r.partition = some r.stop ↔ r.count = starts.backlogOf ends r.partition := by
  constructor
  · intro hend
    obtain ⟨-, -, hstart, -⟩ := h.bounds r hr
    rw [OffsetTable.backlogOf_of_get? hend, ← hstart, OffsetRange.count]
  · intro hcount
    by_contra hundrained
    exact Int.ne_of_lt (h.count_lt_of_undrained hr hundrained) hcount

/-- The partitions before one take at most a share each. -/
theorem OffsetTable.demandBefore_add_le {share : Int} (hs : 0 ≤ share) {p : Partition}
    (hp : ends.contains p = true) :
    starts.demandBefore ends share p + share ≤ share * ends.size := by
  have hfewer : (ends.filter fun q _ => compare q p = .lt).keys.length < ends.size := by
    obtain ⟨stop, hend⟩ := Option.isSome_iff_exists.1 hp
    rw [Table.keys, List.length_map]
    refine List.length_filter_lt_length_iff_exists.2
      ⟨(p, stop), Table.get?_eq_some_iff.1 hend, fun hlt => ?_⟩
    exact Table.ne_of_compare_lt (of_decide_eq_true hlt) rfl
  have hsum := List.sum_le_card_nsmul
    ((ends.filter fun q _ => compare q p = .lt).keys.map fun q =>
      min (starts.backlogOf ends q) share) share
    (List.forall_mem_map.2 fun q _ => Int.min_le_right _ _)
  rw [List.length_map, nsmul_eq_mul, Int.mul_comm] at hsum
  calc starts.demandBefore ends share p + share
      ≤ share * (ends.filter fun q _ => compare q p = .lt).keys.length + share :=
        Int.add_le_add_right hsum share
    _ = share * ((ends.filter fun q _ => compare q p = .lt).keys.length + 1 : Nat) := by
        rw [Int.natCast_succ, Int.mul_add, Int.mul_one]
    _ ≤ share * ends.size := Int.mul_le_mul_of_nonneg_left (by omega) hs

/-- If the budget can be divided evenly, the partitions before one leave it an equal share. -/
theorem OffsetTable.ediv_le_of_dvd {budget : Int} (h0 : 0 ≤ budget) {p : Partition}
    (hp : ends.contains p = true) (hdvd : (ends.size : Int) ∣ budget) :
    budget / ends.size ≤ budget - starts.demandBefore ends (ceilDiv budget ends.size) p := by
  obtain ⟨stop, hend⟩ := Option.isSome_iff_exists.1 hp
  have hsize : 0 < (ends.size : Int) :=
    Int.natCast_pos.2 (List.length_pos_of_mem (Table.get?_eq_some_iff.1 hend))
  have hshare : 0 ≤ budget / ends.size := Int.ediv_nonneg h0 (Int.le_of_lt hsize)
  have hbefore : starts.demandBefore ends (budget / ends.size) p + budget / ends.size ≤
      budget / ends.size * ends.size := demandBefore_add_le hshare hp
  rw [Int.ediv_mul_cancel hdvd] at hbefore
  rw [ceilDiv_eq_ediv_of_dvd hsize hdvd]
  omega

end Ranges

/-- A partition that asks for no more than an equal share gets all of it, unless those before it
have left less. Where the budget can be divided evenly, they never have. -/
theorem small_backlog_served {starts ends : OffsetTable} {budget : Int64}
    {allocation : Allocation} (h : allocate starts ends budget = .ok allocation)
    {r : OffsetRange} (hr : r ∈ allocation.ranges)
    (hsmall : starts.backlogOf ends r.partition ≤ budget.toInt / ends.size) :
    let backlog := starts.backlogOf ends r.partition
    let left := budget.toInt -
      starts.demandBefore ends (ceilDiv budget.toInt ends.size) r.partition
    r.count = min backlog (max 0 left) ∧
    (ends.get? r.partition = some r.stop ↔ backlog ≤ max 0 left) ∧
    ((ends.size : Int) ∣ budget.toInt → ends.get? r.partition = some r.stop) := by
  intro backlog left
  have hallocatable := allocatable_of_allocate h
  have hexact := exactRanges_of_allocate h
  have hbudget : 0 ≤ budget.toInt := Int64.le_iff_toInt_le.1 hallocatable.budget_nonneg
  have hcount : r.count = min backlog (max 0 left) := by
    have hallocation := eq_ofFilled_of_allocate h
    subst hallocation
    obtain ⟨a, ha, rfl⟩ := List.mem_map.1 hr
    exact Allocation.count_filled_of_backlogOf_le hallocatable ha
      (Int.le_trans hsmall (ediv_le_ceilDiv (Int.natCast_pos.2 hallocatable.size_pos)))
  have hdrained : ends.get? r.partition = some r.stop ↔ backlog ≤ max 0 left := by
    rw [hexact.get?_eq_stop_iff hr, hcount]
    omega
  refine ⟨hcount, hdrained, fun hdvd => hdrained.2 ?_⟩
  obtain ⟨stop, hend, -⟩ := hexact.bounds r hr
  have hleft : budget.toInt / ends.size ≤ left :=
    OffsetTable.ediv_le_of_dvd hbudget (Table.contains_of_get? hend) hdvd
  omega

/-- Seven records are two for each of three partitions, and one is left over. The first two
partitions get three each, and the last one has to do with one of its two. -/
theorem small_backlog_served_orders :
    let ends : OffsetTable :=
      .ofList [(⟨"orders", 0⟩, 100), (⟨"orders", 1⟩, 100), (⟨"orders", 2⟩, 2)]
    let r : OffsetRange := ⟨⟨"orders", 2⟩, 0, 1⟩
    (∃ allocation, allocate .empty ends 7 = .ok allocation ∧ r ∈ allocation.ranges) ∧
    OffsetTable.backlogOf .empty ends r.partition = 2 ∧
    OffsetTable.demandBefore .empty ends 3 r.partition = 6 ∧
    r.count = min 2 (max 0 (7 - 6)) ∧
    (ends.get? r.partition = some r.stop ↔ (2 : Int) ≤ max 0 (7 - 6)) := by
  intro ends r
  have hallocate : allocate .empty ends 7 =
      .ok ⟨[⟨⟨"orders", 0⟩, 0, 3⟩, ⟨⟨"orders", 1⟩, 0, 3⟩, r], 7, 0⟩ := by
    decide +kernel
  have hr : r ∈ [⟨⟨"orders", 0⟩, 0, 3⟩, ⟨⟨"orders", 1⟩, 0, 3⟩, r] := by decide
  have hbacklog : OffsetTable.backlogOf .empty ends r.partition = 2 := by decide +kernel
  have hshare : ceilDiv (7 : Int64).toInt ends.size = 3 := by decide +kernel
  have hbefore : OffsetTable.demandBefore .empty ends 3 r.partition = 6 := by decide +kernel
  have hsmall : OffsetTable.backlogOf .empty ends r.partition ≤ (7 : Int64).toInt / ends.size := by
    decide +kernel
  obtain ⟨hcount, hdrained, -⟩ := small_backlog_served hallocate hr hsmall
  rw [hbacklog, hshare, hbefore] at hcount hdrained
  exact ⟨⟨_, hallocate, hr⟩, hbacklog, hbefore, hcount, hdrained⟩

/-- An equal share is one record here, and the last partition asks for no more. Rounding up gives
the first two partitions a second record each, and the last one gets none. -/
theorem small_backlog_left_behind :
    ¬ ∀ (starts ends : OffsetTable) (budget : Int64) (allocation : Allocation),
      allocate starts ends budget = .ok allocation → ∀ r ∈ allocation.ranges,
        starts.backlogOf ends r.partition ≤ budget.toInt / ends.size →
          ends.get? r.partition = some r.stop := by
  intro hall
  let ends : OffsetTable :=
    .ofList [(⟨"orders", 0⟩, 100), (⟨"orders", 1⟩, 100), (⟨"orders", 2⟩, 1)]
  have hallocate : allocate .empty ends 4 =
      .ok ⟨[⟨⟨"orders", 0⟩, 0, 2⟩, ⟨⟨"orders", 1⟩, 0, 2⟩, ⟨⟨"orders", 2⟩, 0, 0⟩], 4, 0⟩ := by
    decide +kernel
  have hend : ends.get? ⟨"orders", 2⟩ = some 0 :=
    hall .empty ends 4 _ hallocate ⟨⟨"orders", 2⟩, 0, 0⟩ (by decide) (by decide +kernel)
  revert hend
  decide +kernel

end LogIntake
