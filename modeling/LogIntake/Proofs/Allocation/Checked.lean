import LogIntake.Proofs.Allocation.Exact

/-!
# Allocation without overflow

The same allocation with arithmetic that gives up where a word cannot hold a result, and with
numbers that have no bounds. For all inputs the three come to the same ranges: no step overflows
or divides by zero, and no sum is seen to saturate.

## Main definitions

- `Checked.allocate`: the allocation that has no result once an operation overflows.
- `Checked.count`, `Checked.total`: the number of records of a range and of many, likewise.
- `Unbounded.allocate`: the allocation over unbounded integers.

## Main statements

- `Checked.fill_eq_some`: no operation of the passes overflows.
- `allocate_unbounded`: the allocation is that of unbounded integers.
- `Checked.exists_total_eq_some`: adding up ranges within a budget does not overflow.
-/

namespace LogIntake

open Unbounded

instance (n : Int) : Decidable (Word.Fits n) := inferInstanceAs (Decidable (_ ∧ _))

/-! ## Checked arithmetic -/

namespace Checked

def add (a b : Int64) : Option Int64 :=
  if Word.Fits (a.toInt + b.toInt) then some (a + b) else none

def sub (a b : Int64) : Option Int64 :=
  if Word.Fits (a.toInt - b.toInt) then some (a - b) else none

/-- A word can be divided by another one, and the quotient be held by a word. -/
def Divides (dividend divisor : Int64) : Prop :=
  divisor ≠ 0 ∧ Word.Fits (dividend.toInt.tdiv divisor.toInt)

instance (a b : Int64) : Decidable (Divides a b) := inferInstanceAs (Decidable (_ ∧ _))

def div (dividend divisor : Int64) : Option Int64 :=
  if Divides dividend divisor then some (dividend / divisor) else none

def rem (dividend divisor : Int64) : Option Int64 :=
  if Divides dividend divisor then some (dividend % divisor) else none

/-- The quotient rounded up. -/
def ceilDiv (dividend divisor : Int64) : Option Int64 := do
  let quotient ← div dividend divisor
  let rest ← rem dividend divisor
  if rest = 0 then return quotient else add quotient 1

theorem divides_of_pos {a b : Int64} (ha : 0 ≤ a.toInt) (hb : 0 < b.toInt) : Divides a b := by
  refine ⟨?_, ?_⟩
  · rintro rfl
    exact absurd hb (by decide)
  · rw [Int.tdiv_eq_ediv_of_nonneg ha, ← Word.toInt_div ha]
    exact Word.fits_toInt _

theorem ceilDiv_eq_some {a b : Int64} (ha : 0 ≤ a.toInt) (hb : 0 < b.toInt) :
    ceilDiv a b = some (Word.ceilDiv a b) := by
  have hdivides := divides_of_pos ha hb
  have hdiv : div a b = some (a / b) := if_pos hdivides
  have hrem : rem a b = some (a % b) := if_pos hdivides
  simp only [ceilDiv, hdiv, hrem, Word.ceilDiv, Option.bind_eq_bind, Option.bind_some]
  by_cases h : a % b = 0
  · rw [if_pos h, if_pos h]
    rfl
  · have hsmall := Word.toInt_div_lt ha hb h
    have hquot0 := Int.ediv_nonneg ha (Int.le_of_lt hb)
    have hlt := a.toInt_lt
    have hone : (1 : Int64).toInt = 1 := rfl
    have hfits : Word.Fits ((a / b).toInt + (1 : Int64).toInt) := by
      rw [Word.toInt_div ha, hone, Word.fits_iff]
      omega
    rw [if_neg h, if_neg h, add, if_pos hfits]

/-! ## The allocation with checks -/

/-- One pass. -/
def pass (budget share : Int64) : Int64 → List Allotment → Option (Int64 × List Allotment)
  | spent, [] => some (spent, [])
  | spent, a :: rest =>
    if a.drained then do
      let next ← pass budget share spent rest
      return (next.1, a :: next.2)
    else do
      let left ← sub budget spent
      let grown := a.grow (min share left)
      let step ← sub grown.stop a.stop
      let spent' ← add spent step
      let next ← pass budget share spent' rest
      return (next.1, grown :: next.2)

/-- Passes until the budget is spent or all partitions are drained. -/
def fill (budget spent : Int64) (lots : List Allotment) : Option (Int64 × List Allotment) :=
  if spent < budget ∧ 0 < Allocation.openCount lots then do
    let left ← sub budget spent
    let share ← ceilDiv left (Word.ofCount (Allocation.openCount lots))
    let next ← pass budget share spent lots
    if Allocation.openCount next.2 < Allocation.openCount lots then fill budget next.1 next.2
    else some next
  else some (spent, lots)
termination_by Allocation.openCount lots

/-- The ranges or the fault in the inputs, or nothing if an operation overflows. -/
def allocate (starts ends : OffsetTable) (budget : Int64) :
    Option (Except AllocationError Allocation) :=
  if budget < 0 then some (.error (.negativeBudget budget))
  else if ends.isEmpty then some (.error .noPartitions)
  else
    match Allocation.begin starts ends.entries with
    | .error e => some (.error e)
    | .ok lots => (fill budget 0 lots).map fun filled => .ok (.ofFilled filled)

section Pass

variable {budget share spent : Int64} {lots : List Allotment}

theorem sub_budget_eq_some (h0 : 0 ≤ spent.toInt) (hb : spent.toInt ≤ budget.toInt) :
    sub budget spent = some (budget - spent) := by
  have hbudget := Word.fits_iff.1 (Word.fits_toInt budget)
  exact if_pos (Word.fits_iff.2 (by omega))

theorem pass_eq_some (hs : 0 ≤ share.toInt) (h0 : 0 ≤ spent.toInt)
    (hb : spent.toInt ≤ budget.toInt) (hl : ∀ a ∈ lots, a.unbounded.Sound) :
    pass budget share spent lots = some (Allocation.pass budget share spent lots) := by
  induction lots generalizing spent with
  | nil => rfl
  | cons a rest ih =>
    obtain ⟨ha, hrest⟩ := List.forall_mem_cons.1 hl
    rw [pass, Allocation.pass]
    by_cases hd : a.drained = true
    · rw [if_pos hd, if_pos hd, ih h0 hb hrest]
      rfl
    · obtain ⟨hge, hle⟩ := Allocation.grow_share_bounds hs h0 hb ha
      have hnext := Allocation.toInt_next_spent hs h0 hb ha
      generalize hgrown : a.grow (min share (budget - spent)) = grown at hge hle hnext
      have hbudget := Word.fits_iff.1 (Word.fits_toInt budget)
      have hstep : (grown.stop - a.stop).toInt = grown.stop.toInt - a.stop.toInt :=
        Word.toInt_sub (Word.fits_iff.2 (by omega))
      have hsub : sub grown.stop a.stop = some (grown.stop - a.stop) :=
        if_pos (Word.fits_iff.2 (by omega))
      have hadd : add spent (grown.stop - a.stop) = some (spent + (grown.stop - a.stop)) :=
        if_pos (Word.fits_iff.2 (by omega))
      rw [if_neg hd, if_neg hd, sub_budget_eq_some h0 hb]
      simp only [Option.bind_eq_bind, Option.bind_some, hgrown, hsub, hadd]
      rw [ih (by omega) (by omega) hrest]
      rfl

/-- The share of the next pass and the pass itself do not overflow. -/
theorem fill_of_next (hgo : spent < budget ∧ 0 < Allocation.openCount lots)
    (h0 : 0 ≤ spent.toInt) (hl : ∀ a ∈ lots, a.unbounded.Sound) :
    let share := Word.ceilDiv (budget - spent) (Word.ofCount (Allocation.openCount lots))
    let next := Allocation.pass budget share spent lots
    fill budget spent lots =
      if Allocation.openCount next.2 < Allocation.openCount lots then fill budget next.1 next.2
      else some next := by
  intro share next
  have hlt := Int64.lt_iff_toInt_lt.1 hgo.1
  have hbudget := Word.fits_iff.1 (Word.fits_toInt budget)
  have hleft : (budget - spent).toInt = budget.toInt - spent.toInt :=
    Word.toInt_sub (Word.fits_iff.2 (by omega))
  have hcount := Word.toInt_ofCount (Allocation.openCount lots)
  rw [Word.toInt_greatest] at hcount
  have hshare : ceilDiv (budget - spent) (Word.ofCount (Allocation.openCount lots)) =
      some share := ceilDiv_eq_some (by omega) (by omega)
  have hpass : pass budget share spent lots = some next :=
    pass_eq_some (Allocation.next_share_nonneg hgo h0) h0 (Int.le_of_lt hlt) hl
  rw [fill, if_pos hgo, sub_budget_eq_some h0 (Int.le_of_lt hlt)]
  simp only [Option.bind_eq_bind, Option.bind_some, hshare, hpass]

/-- No operation of the passes overflows: their checks change nothing. -/
theorem fill_eq_some (h0 : 0 ≤ spent.toInt) (hb : spent.toInt ≤ budget.toInt)
    (hl : ∀ a ∈ lots, a.unbounded.Sound) :
    fill budget spent lots = some (Allocation.fill budget spent lots) := by
  fun_induction Allocation.fill budget spent lots with
  | case1 spent lots hgo share next hlt ih =>
    obtain ⟨h0', hb', hl'⟩ := Allocation.next_sound hgo h0 hl
    rw [fill_of_next hgo h0 hl, if_pos hlt]
    exact ih h0' hb' hl'
  | case2 spent lots hgo share next hlast =>
    rw [fill_of_next hgo h0 hl, if_neg hlast]
  | case3 spent lots hstop => rw [fill, if_neg hstop]

end Pass

theorem allocate_eq_some (starts ends : OffsetTable) (budget : Int64) :
    allocate starts ends budget = some (LogIntake.allocate starts ends budget) := by
  rw [allocate, LogIntake.allocate]
  by_cases hbudget : budget < 0
  · rw [if_pos hbudget, if_pos hbudget]
  · rw [if_neg hbudget, if_neg hbudget]
    by_cases hends : ends.isEmpty = true
    · rw [if_pos hends, if_pos hends]
    · rw [if_neg hends, if_neg hends]
      cases hbegin : Allocation.begin starts ends.entries with
      | error e => rfl
      | ok lots =>
        have h0 : (0 : Int64).toInt = 0 := rfl
        have hbudget' := Int64.le_iff_toInt_le.1 (Int64.not_lt.1 hbudget)
        simp only
        rw [fill_eq_some (by omega) hbudget' (Allocation.sound_of_begin hbegin)]
        rfl

/-! ## Counting records -/

/-- The number of records in a range, if a word can hold it. -/
def count (r : OffsetRange) : Option Int64 := sub r.stop r.start

/-- The ranges counted one after the other on top of `sum`. -/
def totalFrom (sum : Int64) (ranges : List OffsetRange) : Option Int64 :=
  ranges.foldlM (fun sum r => do add sum (← count r)) sum

/-- The number of records in all ranges, if words can hold it and all sums on the way. -/
def total (ranges : List OffsetRange) : Option Int64 := totalFrom 0 ranges

theorem exists_count_eq_some {r : OffsetRange} (h : Word.Fits r.count) :
    ∃ n, count r = some n ∧ n.toInt = r.count :=
  ⟨_, if_pos h, Word.toInt_sub h⟩

theorem exists_totalFrom_eq_some {ranges : List OffsetRange} {sum : Int64}
    (hr : ∀ r ∈ ranges, r.start ≤ r.stop) (h0 : 0 ≤ sum.toInt)
    (hfits : Word.Fits (sum.toInt + OffsetRange.total ranges)) :
    ∃ n, totalFrom sum ranges = some n ∧ n.toInt = sum.toInt + OffsetRange.total ranges := by
  -- No range takes records away, so that each sum on the way is at most the last one.
  induction ranges generalizing sum with
  | nil => exact ⟨sum, rfl, (Int.add_zero _).symm⟩
  | cons r rest ih =>
    obtain ⟨hle, hrest⟩ := List.forall_mem_cons.1 hr
    have hrange := Int64.le_iff_toInt_le.1 hle
    have hnonneg := OffsetRange.total_nonneg hrest
    rw [Word.fits_iff, OffsetRange.total, OffsetRange.count] at hfits
    obtain ⟨n, hcount, hn⟩ := exists_count_eq_some (r := r)
      (by rw [Word.fits_iff, OffsetRange.count]; omega)
    rw [OffsetRange.count] at hn
    have hadd : add sum n = some (sum + n) := if_pos (Word.fits_iff.2 (by omega))
    have hsum : (sum + n).toInt = sum.toInt + n.toInt :=
      Word.toInt_add (Word.fits_iff.2 (by omega))
    have h0' : 0 ≤ (sum + n).toInt := by omega
    obtain ⟨m, htotal, hm⟩ := ih hrest h0' (Word.fits_iff.2 (by omega))
    refine ⟨m, ?_, ?_⟩
    · simp only [totalFrom, List.foldlM_cons, hcount, hadd, Option.bind_eq_bind,
        Option.bind_some]
      exact htotal
    · rw [OffsetRange.total, OffsetRange.count]
      omega

end Checked

/-! ## The allocation without bounds -/

namespace Unbounded

/-- Nothing is granted yet. -/
def Lot.initial (partition : Partition) (start cap : Int) : Lot :=
  ⟨partition, start, start, cap, false⟩

/-- A partition with the offsets to be read from and up to. -/
def Lot.range (a : Lot) : Partition × Int × Int := (a.partition, a.start, a.stop)

/-- The partitions before the first pass, if none starts behind its end. -/
def begin (starts : Table Partition Int) : List (Partition × Int) → Option (List Lot)
  | [] => some []
  | (p, stop) :: rest =>
    let start := (starts.get? p).getD 0
    if stop < start then none
    else (begin starts rest).map (.initial p start stop :: ·)

/-- What an allocation hands out. -/
structure Grants where
  ranges : List (Partition × Int × Int)
  spent : Int
  drained : Nat
  deriving DecidableEq

/-- What is known of an allocation when its passes are over. -/
def Grants.ofFilled (filled : Int × List Lot) : Grants :=
  ⟨filled.2.map Lot.range, filled.1, filled.2.countP (·.drained)⟩

/-- Allocates a budget to the partitions of `ends`, if the inputs have an allocation. -/
def allocate (starts ends : Table Partition Int) (budget : Int) : Option Grants :=
  if budget < 0 then none
  else if ends.isEmpty then none
  else (begin starts ends.entries).map fun lots => .ofFilled (fill budget 0 lots)

end Unbounded

namespace Allocation

/-- An allocation with its words as unbounded integers. -/
def unbounded (allocation : Allocation) : Grants where
  ranges := allocation.ranges.map fun r => (r.partition, r.start.toInt, r.stop.toInt)
  spent := allocation.spent.toInt
  drained := allocation.drained

theorem unbounded_ofFilled (filled : Int64 × List Allotment) :
    (ofFilled filled).unbounded =
      .ofFilled (filled.1.toInt, filled.2.map Allotment.unbounded) := by
  simp only [unbounded, ofFilled, Grants.ofFilled, List.map_map, List.countP_map]
  rfl

theorem begin_unbounded (starts : OffsetTable) (l : List (Partition × Int64)) :
    Unbounded.begin (starts.mapValues Int64.toInt) (l.map fun e => (e.1, e.2.toInt)) =
      (Allocation.begin starts l).toOption.map (List.map Allotment.unbounded) := by
  induction l with
  | nil => rfl
  | cons e rest ih =>
    have hstart : ((starts.mapValues Int64.toInt).get? e.1).getD 0 =
        ((starts.get? e.1).getD 0).toInt := by
      rw [Table.get?_mapValues]
      cases starts.get? e.1 <;> rfl
    rw [List.map_cons, Unbounded.begin, Allocation.begin, hstart]
    by_cases h : e.2 < (starts.get? e.1).getD 0
    · rw [if_pos h, if_pos (Int64.lt_iff_toInt_lt.1 h)]
      rfl
    · rw [if_neg h, if_neg (mt Int64.lt_iff_toInt_lt.2 h), ih]
      cases Allocation.begin starts rest <;> rfl

end Allocation

/-- The allocation of words is that of unbounded integers. -/
theorem allocate_unbounded (starts ends : OffsetTable) (budget : Int64) :
    Unbounded.allocate (starts.mapValues Int64.toInt) (ends.mapValues Int64.toInt)
      budget.toInt = (allocate starts ends budget).toOption.map Allocation.unbounded := by
  have hempty : (ends.mapValues Int64.toInt).isEmpty = ends.isEmpty := by
    simp [Table.isEmpty, Table.mapValues]
  have hnegative : budget < 0 ↔ budget.toInt < 0 := Int64.lt_iff_toInt_lt
  rw [Unbounded.allocate, allocate, hempty]
  by_cases hbudget : budget < 0
  · rw [if_pos hbudget, if_pos (hnegative.1 hbudget)]
    rfl
  · rw [if_neg hbudget, if_neg (mt hnegative.2 hbudget)]
    by_cases hends : ends.isEmpty = true
    · rw [if_pos hends, if_pos hends]
      rfl
    · rw [if_neg hends, if_neg hends]
      have hbegin := Allocation.begin_unbounded starts ends.entries
      change Option.map _ (Unbounded.begin _ (ends.entries.map fun e => (e.1, e.2.toInt))) = _
      rw [hbegin]
      cases hlots : Allocation.begin starts ends.entries with
      | error e => rfl
      | ok lots =>
        have h0 : (0 : Int64).toInt = 0 := rfl
        have hbudget' := Int64.le_iff_toInt_le.1 (Int64.not_lt.1 hbudget)
        have hfill := Allocation.fill_unbounded (Int.le_of_eq h0.symm) hbudget'
          (Allocation.sound_of_begin hlots)
        change some (Grants.ofFilled (Unbounded.fill budget.toInt (0 : Int64).toInt
          (lots.map Allotment.unbounded))) = some (Allocation.ofFilled _).unbounded
        rw [hfill, Allocation.unbounded_ofFilled]

/-! ## Ranges within a budget -/

section Ranges

variable {starts ends : OffsetTable} {budget : Int64} {ranges : List OffsetRange}

theorem ExactRanges.start_le_stop (h : ExactRanges starts ends budget ranges) :
    ∀ r ∈ ranges, r.start ≤ r.stop := fun r hr => by
  obtain ⟨_, -, -, hle, -⟩ := h.bounds r hr
  exact hle

theorem ExactRanges.total_bounds (h : ExactRanges starts ends budget ranges) :
    0 ≤ OffsetRange.total ranges ∧ OffsetRange.total ranges ≤ budget.toInt := by
  refine ⟨OffsetRange.total_nonneg h.start_le_stop, ?_⟩
  rw [h.total]
  exact Int.min_le_left _ _

theorem ExactRanges.count_bounds (h : ExactRanges starts ends budget ranges) {r : OffsetRange}
    (hr : r ∈ ranges) : 0 ≤ r.count ∧ r.count ≤ budget.toInt := by
  have hle := Int64.le_iff_toInt_le.1 (h.start_le_stop r hr)
  have hcount := OffsetRange.count_le_total h.start_le_stop hr
  have htotal := h.total_bounds.2
  rw [OffsetRange.count] at hcount ⊢
  omega

/-- The records of a range of an allocation are counted without overflow. -/
theorem Checked.exists_count_of_exactRanges (h : ExactRanges starts ends budget ranges)
    {r : OffsetRange} (hr : r ∈ ranges) :
    ∃ n, Checked.count r = some n ∧ n.toInt = r.count ∧ 0 ≤ n ∧ n ≤ budget := by
  have hbudget := Word.fits_iff.1 (Word.fits_toInt budget)
  have h0 : (0 : Int64).toInt = 0 := rfl
  obtain ⟨hge, hle⟩ := h.count_bounds hr
  obtain ⟨n, hcount, hn⟩ := exists_count_eq_some (r := r) (Word.fits_iff.2 (by omega))
  refine ⟨n, hcount, hn, ?_, ?_⟩
  · rw [Int64.le_iff_toInt_le]
    omega
  · rw [Int64.le_iff_toInt_le]
    omega

/-- The records of all ranges of an allocation are added up without overflow. -/
theorem Checked.exists_total_of_exactRanges (h : ExactRanges starts ends budget ranges) :
    ∃ n, Checked.total ranges = some n ∧ n.toInt = OffsetRange.total ranges ∧
      0 ≤ n ∧ n ≤ budget := by
  have hbudget := Word.fits_iff.1 (Word.fits_toInt budget)
  have h0 : (0 : Int64).toInt = 0 := rfl
  obtain ⟨hge, hle⟩ := h.total_bounds
  obtain ⟨n, htotal, hn⟩ := exists_totalFrom_eq_some h.start_le_stop (Int.le_of_eq h0.symm)
    (Word.fits_iff.2 (by omega))
  refine ⟨n, htotal, by omega, ?_, ?_⟩
  · rw [Int64.le_iff_toInt_le]
    omega
  · rw [Int64.le_iff_toInt_le]
    omega

end Ranges

/-- For all inputs no operation of an allocation overflows or divides by zero, and it comes to
what it would be over unbounded integers. No range and no sum of ranges has more records than the
budget. -/
theorem allocate_never_overflows (starts ends : OffsetTable) (budget : Int64) :
    Checked.allocate starts ends budget = some (allocate starts ends budget) ∧
    Unbounded.allocate (starts.mapValues Int64.toInt) (ends.mapValues Int64.toInt)
      budget.toInt = (allocate starts ends budget).toOption.map Allocation.unbounded ∧
    ∀ allocation, allocate starts ends budget = .ok allocation →
      (∀ r ∈ allocation.ranges, ∃ n, Checked.count r = some n ∧ n.toInt = r.count ∧
        0 ≤ n ∧ n ≤ budget) ∧
      ∃ n, Checked.total allocation.ranges = some n ∧
        n.toInt = OffsetRange.total allocation.ranges ∧ 0 ≤ n ∧ n ≤ budget := by
  refine ⟨Checked.allocate_eq_some .., allocate_unbounded .., fun allocation h => ?_⟩
  have hexact := exactRanges_of_allocate h
  exact ⟨fun r hr => Checked.exists_count_of_exactRanges hexact hr,
    Checked.exists_total_of_exactRanges hexact⟩

/-- From the least offset to the greatest one is farther than a word can say, and the greatest
budget is handed out all the same. -/
example :
    allocate (.ofList [(⟨"orders", 0⟩, Word.least)]) (.ofList [(⟨"orders", 0⟩, Word.greatest)])
      Word.greatest = .ok ⟨[⟨⟨"orders", 0⟩, Word.least, -1⟩], Word.greatest, 0⟩ := by
  decide +kernel

end LogIntake
