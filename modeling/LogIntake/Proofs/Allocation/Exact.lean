import LogIntake.Proofs.Allocation.Unbounded
import LogIntake.Proofs.TableWrites

/-!
# Exact allocations

Words of 64 bits are enough for an allocation: it comes to what it would be over unbounded
integers, and so hands out exactly what the budget and the partitions allow.

## Main definitions

- `OffsetTable.startAt`: where reading starts in a partition.
- `Allocatable`: the inputs that have an allocation.
- `ExactRanges`: the ranges that an allocation gives for them.

## Main statements

- `Allocation.fill_unbounded`: the passes over words and over unbounded integers agree.
- `Allocation.exactRanges_filled`: what the passes come to is exact.
-/

namespace LogIntake

open Unbounded

/-! ## Words and unbounded integers -/

/-- A partition with its words as unbounded integers. -/
def Allotment.unbounded (a : Allotment) : Lot :=
  ⟨a.partition, a.start.toInt, a.stop.toInt, a.cap.toInt, a.drained⟩

theorem Allotment.stop_unbounded (a : Allotment) : a.unbounded.stop = a.stop.toInt := rfl

/-- A grant saturates only behind the end of the partition, where it is cut anyway. -/
theorem Allotment.unbounded_grow (a : Allotment) {grant : Int64} (hg : 0 ≤ grant.toInt) :
    (a.grow grant).unbounded = a.unbounded.grow grant.toInt := by
  have hcap := Word.fits_iff.1 (Word.fits_toInt a.cap)
  have hstop := Word.fits_iff.1 (Word.fits_toInt a.stop)
  have hmin : (min a.cap (Word.saturatingAdd a.stop grant)).toInt =
      min a.cap.toInt (a.stop.toInt + grant.toInt) := by
    rw [Word.toInt_min, Word.toInt_saturatingAdd, Word.toInt_least, Word.toInt_greatest]
    omega
  have hdrained : min a.cap (Word.saturatingAdd a.stop grant) = a.cap ↔
      min a.cap.toInt (a.stop.toInt + grant.toInt) = a.cap.toInt := by
    rw [← hmin, Int64.toInt_inj]
  simp [grow, unbounded, Lot.grow, hmin, hdrained]

namespace Allocation

theorem openCount_map_unbounded (lots : List Allotment) :
    Unbounded.openCount (lots.map Allotment.unbounded) = openCount lots := by
  simp only [Unbounded.openCount, openCount, List.countP_map]
  rfl

section Pass

variable {budget share spent : Int64} {a : Allotment} {lots : List Allotment}

/-- What is left of the budget is exact, and so is the grant cut to it. -/
theorem grow_share_unbounded (hs : 0 ≤ share.toInt) (h0 : 0 ≤ spent.toInt)
    (hb : spent.toInt ≤ budget.toInt) :
    (a.grow (min share (budget - spent))).unbounded =
      a.unbounded.grow (min share.toInt (budget.toInt - spent.toInt)) := by
  have hbudget := Word.fits_iff.1 (Word.fits_toInt budget)
  have hleft : (budget - spent).toInt = budget.toInt - spent.toInt :=
    Word.toInt_sub (Word.fits_iff.2 (by omega))
  have hgrant : (min share (budget - spent)).toInt =
      min share.toInt (budget.toInt - spent.toInt) := by
    rw [Word.toInt_min, hleft]
  rw [a.unbounded_grow (by omega), hgrant]

/-- A grant takes nothing back and stays within the budget. -/
theorem grow_share_bounds (hs : 0 ≤ share.toInt) (h0 : 0 ≤ spent.toInt)
    (hb : spent.toInt ≤ budget.toInt) (ha : a.unbounded.Sound) :
    let grown := a.grow (min share (budget - spent))
    a.stop.toInt ≤ grown.stop.toInt ∧
      spent.toInt + (grown.stop.toInt - a.stop.toInt) ≤ budget.toInt := by
  obtain ⟨hnext, hnext'⟩ := next_spent_le ha hs hb
  rw [← grow_share_unbounded hs h0 hb, Allotment.stop_unbounded, Allotment.stop_unbounded]
    at hnext hnext'
  exact ⟨by omega, hnext'⟩

/-- Only parts of the budget are added up, so that the sum is exact. -/
theorem toInt_next_spent (hs : 0 ≤ share.toInt) (h0 : 0 ≤ spent.toInt)
    (hb : spent.toInt ≤ budget.toInt) (ha : a.unbounded.Sound) :
    let grown := a.grow (min share (budget - spent))
    (spent + (grown.stop - a.stop)).toInt =
      spent.toInt + (grown.stop.toInt - a.stop.toInt) := by
  intro grown
  have hbudget := Word.fits_iff.1 (Word.fits_toInt budget)
  obtain ⟨hge, hle⟩ : a.stop.toInt ≤ grown.stop.toInt ∧
      spent.toInt + (grown.stop.toInt - a.stop.toInt) ≤ budget.toInt :=
    grow_share_bounds hs h0 hb ha
  have hstep : (grown.stop - a.stop).toInt = grown.stop.toInt - a.stop.toInt :=
    Word.toInt_sub (Word.fits_iff.2 (by omega))
  rw [Word.toInt_add (Word.fits_iff.2 (by omega)), hstep]

/-- A pass over words comes to what it comes to over unbounded integers. -/
theorem pass_unbounded (hs : 0 ≤ share.toInt) (h0 : 0 ≤ spent.toInt)
    (hb : spent.toInt ≤ budget.toInt) (hl : ∀ a ∈ lots, a.unbounded.Sound) :
    Unbounded.pass budget.toInt share.toInt spent.toInt (lots.map Allotment.unbounded) =
      ((pass budget share spent lots).1.toInt,
        (pass budget share spent lots).2.map Allotment.unbounded) := by
  -- What is spent stays between zero and the budget, which is why no word overflows.
  induction lots generalizing spent with
  | nil => rfl
  | cons a rest ih =>
    have ha := hl a List.mem_cons_self
    have hrest : ∀ b ∈ rest, b.unbounded.Sound := fun b hb => hl b (List.mem_cons_of_mem a hb)
    rw [List.map_cons, pass]
    by_cases hd : a.drained = true
    · have hd' : a.unbounded.drained = true := hd
      rw [pass_cons_drained hd', if_pos hd, ih h0 hb hrest]
      rfl
    · have hd' : ¬ a.unbounded.drained = true := hd
      have hspent := toInt_next_spent hs h0 hb ha
      obtain ⟨hge, hle⟩ := grow_share_bounds hs h0 hb ha
      rw [pass_cons_open hd', if_neg hd, ← grow_share_unbounded hs h0 hb]
      simp only [Allotment.stop_unbounded]
      rw [← hspent, ih (by omega) (by omega) hrest]
      rfl

/-- A pass over words stays within the budget, leaves every partition sound, and changes no
partition but by what it grants. -/
theorem pass_sound (hs : 0 ≤ share.toInt) (h0 : 0 ≤ spent.toInt)
    (hb : spent.toInt ≤ budget.toInt) (hl : ∀ a ∈ lots, a.unbounded.Sound) :
    let next := pass budget share spent lots
    0 ≤ next.1.toInt ∧ next.1.toInt ≤ budget.toInt ∧ (∀ a ∈ next.2, a.unbounded.Sound) ∧
      next.2.map (fun a => a.unbounded.frame) = lots.map (fun a => a.unbounded.frame) := by
  intro next
  obtain ⟨hge, hle, hsound⟩ := pass_bounds hs hb (List.forall_mem_map.2 hl)
  have hframe := map_frame_pass budget.toInt share.toInt spent.toInt
    (lots.map Allotment.unbounded)
  rw [pass_unbounded hs h0 hb hl] at hge hle hsound hframe
  rw [List.map_map, List.map_map] at hframe
  exact ⟨Int.le_trans h0 hge, hle, List.forall_mem_map.1 hsound, hframe⟩

end Pass

/-- The share of a pass, rounded up. Where there are more partitions than a word can count, every
one gets a single record. -/
theorem toInt_share {left : Int64} (hl : 0 < left.toInt) {n : Nat} (hn : 0 < n) :
    (Word.ceilDiv left (Word.ofCount n)).toInt = Unbounded.ceilDiv left.toInt n := by
  have hleft := Word.fits_iff.1 (Word.fits_toInt left)
  have hcount := Word.toInt_ofCount n
  rw [Word.toInt_greatest] at hcount
  rw [Word.toInt_ceilDiv (by omega) (by omega), Unbounded.ceilDiv, hcount]
  by_cases hfits : (n : Int) ≤ 9223372036854775807
  · rw [Int.min_eq_right hfits]
  · -- More partitions than a word can count are more than there are records to hand out.
    have hone : ∀ d : Int, left.toInt ≤ d → (left.toInt + d - 1) / d = 1 := fun d hd => by
      rw [show left.toInt + d - 1 = (left.toInt - 1) + d * 1 by omega,
        Int.add_mul_ediv_left _ _ (by omega), Int.ediv_eq_zero_of_lt (by omega) (by omega)]
      rfl
    rw [hone _ (by omega), hone _ (by omega)]

/-- The share of the next pass is the one over unbounded integers. -/
theorem toInt_next_share {budget spent : Int64} {lots : List Allotment}
    (hgo : spent < budget ∧ 0 < openCount lots) (h0 : 0 ≤ spent.toInt) :
    (Word.ceilDiv (budget - spent) (Word.ofCount (openCount lots))).toInt =
      Unbounded.ceilDiv (budget.toInt - spent.toInt) (openCount lots) := by
  have hlt := Int64.lt_iff_toInt_lt.1 hgo.1
  have hbudget := Word.fits_iff.1 (Word.fits_toInt budget)
  have hleft : (budget - spent).toInt = budget.toInt - spent.toInt :=
    Word.toInt_sub (Word.fits_iff.2 (by omega))
  rw [← hleft]
  exact toInt_share (by omega) hgo.2

theorem next_share_nonneg {budget spent : Int64} {lots : List Allotment}
    (hgo : spent < budget ∧ 0 < openCount lots) (h0 : 0 ≤ spent.toInt) :
    0 ≤ (Word.ceilDiv (budget - spent) (Word.ofCount (openCount lots))).toInt := by
  have hlt := Int64.lt_iff_toInt_lt.1 hgo.1
  rw [toInt_next_share hgo h0]
  exact ceilDiv_nonneg (by omega) (by omega)

/-- The next pass over words is the one over unbounded integers. -/
theorem next_unbounded {budget spent : Int64} {lots : List Allotment}
    (hgo : spent < budget ∧ 0 < openCount lots) (h0 : 0 ≤ spent.toInt)
    (hl : ∀ a ∈ lots, a.unbounded.Sound) :
    let share := Word.ceilDiv (budget - spent) (Word.ofCount (openCount lots))
    let next := pass budget share spent lots
    Unbounded.pass budget.toInt (Unbounded.ceilDiv (budget.toInt - spent.toInt) (openCount lots))
      spent.toInt (lots.map Allotment.unbounded) =
        (next.1.toInt, next.2.map Allotment.unbounded) := by
  intro share next
  have hlt := Int64.lt_iff_toInt_lt.1 hgo.1
  rw [← toInt_next_share hgo h0]
  exact pass_unbounded (next_share_nonneg hgo h0) h0 (Int.le_of_lt hlt) hl

theorem next_sound {budget spent : Int64} {lots : List Allotment}
    (hgo : spent < budget ∧ 0 < openCount lots) (h0 : 0 ≤ spent.toInt)
    (hl : ∀ a ∈ lots, a.unbounded.Sound) :
    let share := Word.ceilDiv (budget - spent) (Word.ofCount (openCount lots))
    let next := pass budget share spent lots
    0 ≤ next.1.toInt ∧ next.1.toInt ≤ budget.toInt ∧ ∀ a ∈ next.2, a.unbounded.Sound := by
  intro share next
  have hlt := Int64.lt_iff_toInt_lt.1 hgo.1
  obtain ⟨hge, hle, hsound, -⟩ :=
    pass_sound (next_share_nonneg hgo h0) h0 (Int.le_of_lt hlt) hl
  exact ⟨hge, hle, hsound⟩

/-- The passes over words come to what they come to over unbounded integers. -/
theorem fill_unbounded {budget spent : Int64} {lots : List Allotment} (h0 : 0 ≤ spent.toInt)
    (hb : spent.toInt ≤ budget.toInt) (hl : ∀ a ∈ lots, a.unbounded.Sound) :
    Unbounded.fill budget.toInt spent.toInt (lots.map Allotment.unbounded) =
      ((fill budget spent lots).1.toInt,
        (fill budget spent lots).2.map Allotment.unbounded) := by
  -- The same number of partitions is open on both sides, so both stop after the same pass.
  fun_induction fill budget spent lots with
  | case1 spent lots hgo share next hlt ih =>
    obtain ⟨h0', hb', hl'⟩ := next_sound hgo h0 hl
    have hgo' := hgo
    rw [Int64.lt_iff_toInt_lt] at hgo'
    rw [Unbounded.fill, openCount_map_unbounded, if_pos hgo']
    simp only
    rw [next_unbounded hgo h0 hl]
    simp only
    rw [openCount_map_unbounded, if_pos hlt]
    exact ih h0' hb' hl'
  | case2 spent lots hgo share next hlast =>
    have hgo' := hgo
    rw [Int64.lt_iff_toInt_lt] at hgo'
    rw [Unbounded.fill, openCount_map_unbounded, if_pos hgo']
    simp only
    rw [next_unbounded hgo h0 hl]
    simp only
    rw [openCount_map_unbounded, if_neg hlast]
  | case3 spent lots hstop =>
    rw [Int64.lt_iff_toInt_lt] at hstop
    rw [Unbounded.fill, openCount_map_unbounded, if_neg hstop]

end Allocation

/-! ## The inputs and what they ask for -/

/-- Where reading starts in a partition. One without a start is read from offset zero. -/
def OffsetTable.startAt (starts : OffsetTable) (p : Partition) : Int64 := (starts.get? p).getD 0

/-- The number of records between the starts and the ends of the partitions. -/
def OffsetTable.backlog (starts ends : OffsetTable) : Int :=
  (ends.entries.map fun e => e.2.toInt - (starts.startAt e.1).toInt).sum

/-- The inputs that have an allocation. -/
structure Allocatable (starts ends : OffsetTable) (budget : Int64) : Prop where
  budget_nonneg : 0 ≤ budget
  ends_ne_empty : ends ≠ .empty
  start_le_end : ∀ p stop, ends.get? p = some stop → starts.startAt p ≤ stop

theorem Allocatable.size_pos {starts ends : OffsetTable} {budget : Int64}
    (h : Allocatable starts ends budget) : 0 < ends.size :=
  List.length_pos_iff.2 fun hnil =>
    h.ends_ne_empty (Table.isEmpty_iff.1 (List.isEmpty_iff.2 hnil))

theorem OffsetRange.total_nonneg {ranges : List OffsetRange}
    (h : ∀ r ∈ ranges, r.start ≤ r.stop) : 0 ≤ OffsetRange.total ranges := by
  induction ranges with
  | nil => exact Int.le_refl 0
  | cons r rest ih =>
    obtain ⟨hr, hrest⟩ := List.forall_mem_cons.1 h
    have hcount := Int64.le_iff_toInt_le.1 hr
    have hnext := ih hrest
    rw [OffsetRange.total, OffsetRange.count]
    omega

theorem OffsetRange.count_le_total {ranges : List OffsetRange}
    (h : ∀ r ∈ ranges, r.start ≤ r.stop) {r : OffsetRange} (hr : r ∈ ranges) :
    r.count ≤ OffsetRange.total ranges := by
  induction ranges with
  | nil => cases hr
  | cons a rest ih =>
    obtain ⟨ha, hrest⟩ := List.forall_mem_cons.1 h
    have hcount := Int64.le_iff_toInt_le.1 ha
    have hnonneg := OffsetRange.total_nonneg hrest
    rw [OffsetRange.total]
    rcases List.mem_cons.1 hr with rfl | hr
    · omega
    · have hle := ih hrest hr
      have ha : a.count = a.stop.toInt - a.start.toInt := rfl
      omega

/-- What an allocation hands out. -/
structure ExactRanges (starts ends : OffsetTable) (budget : Int64) (ranges : List OffsetRange) :
    Prop where
  /-- Each partition with an end has one range, and no other has. -/
  partitions : ranges.map (·.partition) = ends.keys
  /-- The ranges stand in ascending order of their partitions. -/
  ascending : ranges.Pairwise fun r r' => compare r.partition r'.partition = .lt
  /-- A range starts where reading starts and reaches at most to the end of its partition. -/
  bounds : ∀ r ∈ ranges, ∃ stop, ends.get? r.partition = some stop ∧
    r.start = starts.startAt r.partition ∧ r.start ≤ r.stop ∧ r.stop ≤ stop
  /-- The budget is used up as far as there are records to read. -/
  total : OffsetRange.total ranges = min budget.toInt (starts.backlog ends)
  /-- When all records fit the budget, every partition is read up to its end. -/
  drained : starts.backlog ends ≤ budget.toInt → ∀ r ∈ ranges, ends.get? r.partition = some r.stop

namespace Allocation

theorem begin_eq_ok {starts : OffsetTable} {l : List (Partition × Int64)}
    (h : ∀ e ∈ l, starts.startAt e.1 ≤ e.2) :
    Allocation.begin starts l = .ok (l.map fun e => .initial e.1 (starts.startAt e.1) e.2) := by
  induction l with
  | nil => rfl
  | cons e rest ih =>
    obtain ⟨he, hrest⟩ := List.forall_mem_cons.1 h
    have hstart : ¬ e.2 < (starts.get? e.1).getD 0 := Int64.not_lt.2 he
    rw [Allocation.begin, if_neg hstart, ih hrest]
    rfl

/-- The first partition that would start behind its end is the fault. -/
theorem begin_eq_error {starts : OffsetTable} {l : List (Partition × Int64)}
    (h : ¬ ∀ e ∈ l, starts.startAt e.1 ≤ e.2) :
    ∃ p start stop, Allocation.begin starts l = .error (.startPastEnd p start stop) := by
  induction l with
  | nil => simp at h
  | cons e rest ih =>
    by_cases he : e.2 < (starts.get? e.1).getD 0
    · refine ⟨e.1, (starts.get? e.1).getD 0, e.2, ?_⟩
      rw [Allocation.begin, if_pos he]
    · have hrest : ¬ ∀ e ∈ rest, starts.startAt e.1 ≤ e.2 := fun hrest =>
        h (List.forall_mem_cons.2 ⟨Int64.not_lt.1 he, hrest⟩)
      obtain ⟨p, start, stop, herror⟩ := ih hrest
      refine ⟨p, start, stop, ?_⟩
      rw [Allocation.begin, if_neg he, herror]
      rfl

/-- Partitions that pass the check are sound before the first pass. -/
theorem sound_of_begin {starts : OffsetTable} {l : List (Partition × Int64)}
    {lots : List Allotment} (h : Allocation.begin starts l = .ok lots) :
    ∀ a ∈ lots, a.unbounded.Sound := by
  by_cases hstart : ∀ e ∈ l, starts.startAt e.1 ≤ e.2
  · rw [begin_eq_ok hstart] at h
    cases h
    refine List.forall_mem_map.2 fun e he => ?_
    exact ⟨Int.le_refl _, Int64.le_iff_toInt_le.1 (hstart e he), nofun⟩
  · obtain ⟨_, _, _, herror⟩ := begin_eq_error hstart
    rw [herror] at h
    cases h

theorem begin_congr {starts starts' : OffsetTable} {l : List (Partition × Int64)}
    (h : ∀ e ∈ l, starts.startAt e.1 = starts'.startAt e.1) :
    Allocation.begin starts l = Allocation.begin starts' l := by
  induction l with
  | nil => rfl
  | cons e rest ih =>
    obtain ⟨he, hrest⟩ := List.forall_mem_cons.1 h
    change (starts.get? e.1).getD 0 = (starts'.get? e.1).getD 0 at he
    rw [Allocation.begin, Allocation.begin, he, ih hrest]

def initialLots (starts ends : OffsetTable) : List Allotment :=
  ends.entries.map fun e => .initial e.1 (starts.startAt e.1) e.2

/-- Before the first pass no partition is drained. -/
theorem openCount_initialLots (starts ends : OffsetTable) :
    openCount (initialLots starts ends) = ends.size := by
  rw [openCount, initialLots, List.countP_map, Table.size]
  exact List.countP_eq_length.2 fun _ _ => rfl

section Initial

variable {starts ends : OffsetTable} {budget : Int64}

theorem begin_entries (h : Allocatable starts ends budget) :
    Allocation.begin starts ends.entries = .ok (initialLots starts ends) :=
  begin_eq_ok fun e he => h.start_le_end e.1 e.2 (Table.get?_eq_some_iff.2 he)

theorem initialLots_sound (h : Allocatable starts ends budget) :
    ∀ a ∈ initialLots starts ends, a.unbounded.Sound :=
  sound_of_begin (begin_entries h)

/-- What is known of an allocation when its passes are over. -/
def ofFilled (filled : Int64 × List Allotment) : Allocation :=
  ⟨filled.2.map Allotment.range, filled.1, filled.2.countP (·.drained)⟩

theorem allocate_eq_ok_ofFilled (h : Allocatable starts ends budget) :
    allocate starts ends budget = .ok (ofFilled (fill budget 0 (initialLots starts ends))) := by
  have hbudget : ¬ budget < 0 := Int64.not_lt.2 h.budget_nonneg
  have hends : ¬ ends.isEmpty = true := fun he => h.ends_ne_empty (Table.isEmpty_iff.1 he)
  rw [allocate, if_neg hbudget, if_neg hends, begin_entries h]
  rfl

theorem allocate_eq_ok (h : Allocatable starts ends budget) :
    ∃ allocation, allocate starts ends budget = .ok allocation ∧
      allocation.ranges =
        (fill budget 0 (initialLots starts ends)).2.map Allotment.range :=
  ⟨_, allocate_eq_ok_ofFilled h, rfl⟩

theorem allocate_eq_error (h : ¬ Allocatable starts ends budget) :
    ∃ e, allocate starts ends budget = .error e := by
  by_cases hbudget : budget < 0
  · exact ⟨_, if_pos hbudget⟩
  · by_cases hends : ends.isEmpty = true
    · exact ⟨_, by rw [allocate, if_neg hbudget, if_pos hends]⟩
    · have hstart : ¬ ∀ e ∈ ends.entries, starts.startAt e.1 ≤ e.2 := fun hall => by
        refine h ⟨Int64.not_lt.1 hbudget, ?_, fun p stop hp => ?_⟩
        · rintro rfl
          exact hends rfl
        · exact hall (p, stop) (Table.get?_eq_some_iff.1 hp)
      obtain ⟨p, start, stop, herror⟩ := begin_eq_error hstart
      exact ⟨_, by rw [allocate, if_neg hbudget, if_neg hends, herror]; rfl⟩

theorem granted_initialLots (starts ends : OffsetTable) :
    granted ((initialLots starts ends).map Allotment.unbounded) = 0 := by
  simp [granted, initialLots, Allotment.unbounded, Allotment.initial, Function.comp_def]

theorem backlog_initialLots (starts ends : OffsetTable) :
    Unbounded.backlog ((initialLots starts ends).map Allotment.unbounded) =
      starts.backlog ends := by
  simp [Unbounded.backlog, OffsetTable.backlog, initialLots, Allotment.unbounded,
    Allotment.initial, Function.comp_def]

theorem total_map_range (lots : List Allotment) :
    OffsetRange.total (lots.map Allotment.range) = granted (lots.map Allotment.unbounded) := by
  induction lots with
  | nil => rfl
  | cons a rest ih =>
    rw [List.map_cons, List.map_cons, OffsetRange.total, granted_cons, ih]
    rfl

theorem map_unbounded_fill (h : Allocatable starts ends budget) :
    (fill budget 0 (initialLots starts ends)).2.map Allotment.unbounded =
      (Unbounded.fill budget.toInt 0 ((initialLots starts ends).map Allotment.unbounded)).2 := by
  have h0 : (0 : Int64).toInt = 0 := rfl
  have hbudget := Int64.le_iff_toInt_le.1 h.budget_nonneg
  rw [← h0, fill_unbounded (by omega) hbudget (initialLots_sound h)]

theorem map_frame_initialLots (starts ends : OffsetTable) :
    (initialLots starts ends).map (fun a => a.unbounded.frame) =
      ends.entries.map fun e => (e.1, (starts.startAt e.1).toInt, e.2.toInt) := by
  rw [initialLots, List.map_map]
  rfl

theorem map_frame_filled (h : Allocatable starts ends budget) :
    (fill budget 0 (initialLots starts ends)).2.map (fun a => a.unbounded.frame) =
      ends.entries.map fun e => (e.1, (starts.startAt e.1).toInt, e.2.toInt) := by
  have hframe := map_frame_fill budget.toInt 0
    ((initialLots starts ends).map Allotment.unbounded)
  rw [← map_unbounded_fill h, List.map_map, List.map_map] at hframe
  exact hframe.trans (map_frame_initialLots starts ends)

theorem map_partition_of_map_frame {lots : List Allotment}
    (hframe : lots.map (fun a => a.unbounded.frame) =
      ends.entries.map fun e => (e.1, (starts.startAt e.1).toInt, e.2.toInt)) :
    lots.map (·.partition) = ends.keys := by
  have hfst := congrArg (List.map (·.1)) hframe
  rw [List.map_map, List.map_map] at hfst
  exact hfst

theorem partitions_filled (h : Allocatable starts ends budget) :
    ((fill budget 0 (initialLots starts ends)).2.map Allotment.range).map (·.partition) =
      ends.keys := by
  rw [List.map_map]
  exact map_partition_of_map_frame (map_frame_filled h)

theorem filled_sound (h : Allocatable starts ends budget) :
    ∀ a ∈ (fill budget 0 (initialLots starts ends)).2, a.unbounded.Sound := by
  have hbudget := Int64.le_iff_toInt_le.1 h.budget_nonneg
  obtain ⟨_, hsound⟩ := fill_bounds hbudget (List.forall_mem_map.2 (initialLots_sound h))
  rw [← List.forall_mem_map, map_unbounded_fill h]
  exact hsound

theorem granted_filled (h : Allocatable starts ends budget) :
    granted ((fill budget 0 (initialLots starts ends)).2.map Allotment.unbounded) =
      min budget.toInt (starts.backlog ends) := by
  have hbudget := Int64.le_iff_toInt_le.1 h.budget_nonneg
  rw [map_unbounded_fill h, fill_spent hbudget (List.forall_mem_map.2 (initialLots_sound h))
    (granted_initialLots starts ends), backlog_initialLots]

theorem backlog_filled (h : Allocatable starts ends budget) :
    Unbounded.backlog ((fill budget 0 (initialLots starts ends)).2.map Allotment.unbounded) =
      starts.backlog ends := by
  rw [map_unbounded_fill h, backlog_eq_of_map_frame_eq (map_frame_fill ..), backlog_initialLots]

/-- A partition of an allocation is one with an end, and starts where reading starts. -/
theorem exists_entry_of_mem {lots : List Allotment}
    (hframe : lots.map (fun a => a.unbounded.frame) =
      ends.entries.map fun e => (e.1, (starts.startAt e.1).toInt, e.2.toInt))
    {a : Allotment} (ha : a ∈ lots) :
    ends.get? a.partition = some a.cap ∧ a.start = starts.startAt a.partition := by
  have hmem : a.unbounded.frame ∈ ends.entries.map fun e =>
      (e.1, (starts.startAt e.1).toInt, e.2.toInt) := by
    rw [← hframe]
    exact List.mem_map_of_mem ha
  obtain ⟨e, he, hframe⟩ := List.mem_map.1 hmem
  obtain ⟨hpartition, hstart, hcap⟩ : e.1 = a.partition ∧
      (starts.startAt e.1).toInt = a.start.toInt ∧ e.2.toInt = a.cap.toInt := by
    simpa [Lot.frame, Allotment.unbounded] using hframe
  rw [Int64.toInt_inj] at hstart hcap
  rw [← hpartition, ← hcap, ← hstart]
  exact ⟨Table.get?_eq_some_iff.2 he, rfl⟩

theorem exactRanges_filled (h : Allocatable starts ends budget) :
    ExactRanges starts ends budget
      ((fill budget 0 (initialLots starts ends)).2.map Allotment.range) where
  partitions := partitions_filled h
  ascending := by
    have hkeys := ends.keys_ascending
    rw [← partitions_filled h] at hkeys
    exact List.pairwise_map.1 hkeys
  bounds := by
    refine List.forall_mem_map.2 fun a ha => ?_
    obtain ⟨hend, hstart⟩ := exists_entry_of_mem (map_frame_filled h) ha
    have hsound := filled_sound h a ha
    exact ⟨a.cap, hend, hstart, Int64.le_iff_toInt_le.2 hsound.start_le_stop,
      Int64.le_iff_toInt_le.2 hsound.stop_le_cap⟩
  total := (total_map_range _).trans (granted_filled h)
  drained hfits := by
    refine List.forall_mem_map.2 fun a ha => ?_
    have hall := stop_eq_cap_of_backlog_le (List.forall_mem_map.2 (filled_sound h))
      (by rw [granted_filled h, backlog_filled h]; omega)
    have hstop : a.stop = a.cap := Int64.toInt_inj.1 (List.forall_mem_map.1 hall a ha)
    have hend := (exists_entry_of_mem (map_frame_filled h) ha).1
    rw [← hstop] at hend
    exact hend

end Initial

end Allocation

theorem allocatable_of_allocate {starts ends : OffsetTable} {budget : Int64}
    {allocation : Allocation} (h : allocate starts ends budget = .ok allocation) :
    Allocatable starts ends budget := by
  by_cases hallocatable : Allocatable starts ends budget
  · exact hallocatable
  · obtain ⟨e, herror⟩ := Allocation.allocate_eq_error hallocatable
    rw [h] at herror
    cases herror

theorem eq_ofFilled_of_allocate {starts ends : OffsetTable} {budget : Int64}
    {allocation : Allocation} (h : allocate starts ends budget = .ok allocation) :
    allocation = .ofFilled (Allocation.fill budget 0 (Allocation.initialLots starts ends)) := by
  rw [Allocation.allocate_eq_ok_ofFilled (allocatable_of_allocate h)] at h
  cases h
  rfl

theorem exactRanges_of_allocate {starts ends : OffsetTable} {budget : Int64}
    {allocation : Allocation} (h : allocate starts ends budget = .ok allocation) :
    ExactRanges starts ends budget allocation.ranges := by
  rw [eq_ofFilled_of_allocate h]
  exact Allocation.exactRanges_filled (allocatable_of_allocate h)

/-- Only the starts of partitions with an end matter. -/
theorem allocate_congr {starts starts' ends : OffsetTable}
    (h : ∀ p, ends.contains p = true → starts.startAt p = starts'.startAt p) (budget : Int64) :
    allocate starts ends budget = allocate starts' ends budget := by
  have hentries : ∀ e ∈ ends.entries, starts.startAt e.1 = starts'.startAt e.1 := fun e he =>
    h e.1 (Table.contains_of_get? (Table.get?_eq_some_iff.2 he))
  rw [allocate, allocate, Allocation.begin_congr hentries]

/-- The allocatable inputs, and no others, have an allocation, and it hands out exactly as many
records as the budget and the partitions allow. All other inputs break what a plan needs. -/
theorem allocate_exact (starts ends : OffsetTable) (budget : Int64) :
    (Allocatable starts ends budget →
      ∃ allocation, allocate starts ends budget = .ok allocation ∧
        ExactRanges starts ends budget allocation.ranges) ∧
    (¬ Allocatable starts ends budget →
      ∃ e, allocate starts ends budget = .error e ∧ e.failure.kind = .invariantViolation) := by
  constructor
  · intro h
    obtain ⟨allocation, hok, hranges⟩ := Allocation.allocate_eq_ok h
    refine ⟨allocation, hok, ?_⟩
    rw [hranges]
    exact Allocation.exactRanges_filled h
  · intro h
    obtain ⟨e, herror⟩ := Allocation.allocate_eq_error h
    exact ⟨e, herror, rfl⟩

end LogIntake
