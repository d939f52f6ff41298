import LogIntake.Allocation
import Mathlib.Algebra.Order.BigOperators.Group.List
import Mathlib.Algebra.Ring.Int.Defs

/-!
# Allocation over unbounded integers

The passes of an allocation with offsets and budgets that have no bounds, and what they keep.
Reasoning about shares and sums takes place here: words of 64 bits come to the same results.

## Main definitions

- `Unbounded.Lot`: a partition during the allocation.
- `Unbounded.pass`, `Unbounded.fill`: one pass, and passes until nothing can be handed out.
- `Unbounded.Lot.Sound`: what holds of a partition at any time.
- `Unbounded.granted`, `Unbounded.backlog`: how many records are granted, and how many there are.

## Main statements

- `Unbounded.fill_spent`: exactly the lesser one of budget and backlog is handed out.
- `Unbounded.pass_spent_of_openCount_eq`: a pass that drains no partition grants each share in full.
-/

namespace LogIntake.Unbounded

/-- A partition during the allocation: it is to be read from `start` up to `stop`, which grows
toward `cap`. -/
structure Lot where
  partition : Partition
  start : Int
  stop : Int
  cap : Int
  drained : Bool
  deriving DecidableEq

/-- Grants up to `grant` more records, as far as the partition has them. -/
def Lot.grow (a : Lot) (grant : Int) : Lot :=
  let stop := min a.cap (a.stop + grant)
  { a with stop, drained := stop = a.cap }

/-- The number of partitions that are not drained. -/
def openCount (lots : List Lot) : Nat := lots.countP (! ·.drained)

/-- One pass: each partition that is not drained is granted `share` records, or what is left of
the budget if that is less. -/
def pass (budget share : Int) : Int → List Lot → Int × List Lot
  | spent, [] => (spent, [])
  | spent, a :: rest =>
    if a.drained then
      let next := pass budget share spent rest
      (next.1, a :: next.2)
    else
      let grown := a.grow (min share (budget - spent))
      let next := pass budget share (spent + (grown.stop - a.stop)) rest
      (next.1, grown :: next.2)

/-- The quotient rounded up. -/
def ceilDiv (dividend divisor : Int) : Int := (dividend + divisor - 1) / divisor

/-- Passes until the budget is spent or all partitions are drained. -/
def fill (budget spent : Int) (lots : List Lot) : Int × List Lot :=
  if spent < budget ∧ 0 < openCount lots then
    let share := ceilDiv (budget - spent) (openCount lots)
    let next := pass budget share spent lots
    if openCount next.2 < openCount lots then fill budget next.1 next.2 else next
  else (spent, lots)
termination_by openCount lots

/-- What holds of a partition at any time of the allocation. -/
structure Lot.Sound (a : Lot) : Prop where
  start_le_stop : a.start ≤ a.stop
  stop_le_cap : a.stop ≤ a.cap
  stop_eq_cap : a.drained = true → a.stop = a.cap

/-- What never changes of a partition: itself and its two ends. -/
def Lot.frame (a : Lot) : Partition × Int × Int := (a.partition, a.start, a.cap)

/-- The number of records granted so far. -/
def granted (lots : List Lot) : Int := (lots.map fun a => a.stop - a.start).sum

def backlog (lots : List Lot) : Int := (lots.map fun a => a.cap - a.start).sum

@[simp]
theorem granted_nil : granted [] = 0 := rfl

@[simp]
theorem granted_cons (a : Lot) (rest : List Lot) :
    granted (a :: rest) = a.stop - a.start + granted rest := by
  simp [granted]

@[simp]
theorem backlog_cons (a : Lot) (rest : List Lot) :
    backlog (a :: rest) = a.cap - a.start + backlog rest := by
  simp [backlog]

@[simp]
theorem openCount_nil : openCount [] = 0 := rfl

theorem openCount_cons_drained {a : Lot} (h : a.drained = true) (rest : List Lot) :
    openCount (a :: rest) = openCount rest := by
  simp [openCount, h]

theorem openCount_cons_open {a : Lot} (h : ¬ a.drained = true) (rest : List Lot) :
    openCount (a :: rest) = openCount rest + 1 := by
  simp [openCount, h]

theorem openCount_cons_le (a : Lot) (rest : List Lot) :
    openCount (a :: rest) ≤ openCount rest + 1 := by
  by_cases h : a.drained = true
  · rw [openCount_cons_drained h]
    omega
  · exact Nat.le_of_eq (openCount_cons_open h rest)

theorem drained_of_openCount_eq_zero {lots : List Lot} (h : openCount lots = 0) :
    ∀ a ∈ lots, a.drained = true := by
  simpa [openCount] using h

/-! ## One grant -/

namespace Lot

@[simp]
theorem frame_grow (a : Lot) (grant : Int) : (a.grow grant).frame = a.frame := rfl

@[simp]
theorem start_grow (a : Lot) (grant : Int) : (a.grow grant).start = a.start := rfl

theorem stop_grow (a : Lot) (grant : Int) :
    (a.grow grant).stop = min a.cap (a.stop + grant) := rfl

theorem drained_grow_iff (a : Lot) (grant : Int) :
    (a.grow grant).drained = true ↔ a.cap ≤ a.stop + grant := by
  simp only [grow, decide_eq_true_eq]
  omega

/-- A grant never takes records back, and never gives more than it says. -/
theorem stop_grow_bounds {a : Lot} (h : a.Sound) {grant : Int} (hg : 0 ≤ grant) :
    a.stop ≤ (a.grow grant).stop ∧ (a.grow grant).stop ≤ a.stop + grant := by
  have := h.stop_le_cap
  rw [stop_grow]
  omega

theorem stop_grow_of_open {a : Lot} {grant : Int} (h : ¬ (a.grow grant).drained = true) :
    (a.grow grant).stop = a.stop + grant := by
  rw [drained_grow_iff] at h
  rw [stop_grow]
  omega

theorem Sound.grow {a : Lot} (h : a.Sound) {grant : Int} (hg : 0 ≤ grant) :
    (a.grow grant).Sound where
  start_le_stop := Int.le_trans h.start_le_stop (stop_grow_bounds h hg).1
  stop_le_cap := Int.min_le_left _ _
  stop_eq_cap hd := by
    rw [drained_grow_iff] at hd
    exact Int.min_eq_left hd

end Lot

/-! ## One pass -/

section Pass

variable {budget share spent : Int} {lots : List Lot}

theorem pass_cons_drained {a : Lot} (h : a.drained = true) (rest : List Lot) :
    pass budget share spent (a :: rest) =
      ((pass budget share spent rest).1, a :: (pass budget share spent rest).2) := by
  rw [pass, if_pos h]

theorem pass_cons_open {a : Lot} (h : ¬ a.drained = true) (rest : List Lot) :
    pass budget share spent (a :: rest) =
      let grown := a.grow (min share (budget - spent))
      let next := pass budget share (spent + (grown.stop - a.stop)) rest
      (next.1, grown :: next.2) := by
  rw [pass, if_neg h]

theorem map_frame_pass (budget share spent : Int) (lots : List Lot) :
    (pass budget share spent lots).2.map Lot.frame = lots.map Lot.frame := by
  induction lots generalizing spent with
  | nil => rfl
  | cons a rest ih =>
    by_cases h : a.drained = true
    · simp [pass_cons_drained h, ih]
    · simp [pass_cons_open h, ih]

/-- What a pass spends is what the partitions get. -/
theorem pass_spent (budget share spent : Int) (lots : List Lot) :
    (pass budget share spent lots).1 =
      spent + (granted (pass budget share spent lots).2 - granted lots) := by
  induction lots generalizing spent with
  | nil => simp [pass]
  | cons a rest ih =>
    by_cases h : a.drained = true
    · simp only [pass_cons_drained h, granted_cons]
      rw [ih]
      omega
    · simp only [pass_cons_open h, granted_cons, Lot.start_grow]
      rw [ih]
      omega

theorem next_spent_le {a : Lot} (ha : a.Sound) (hs : 0 ≤ share) (hb : spent ≤ budget) :
    let grown := a.grow (min share (budget - spent))
    spent ≤ spent + (grown.stop - a.stop) ∧ spent + (grown.stop - a.stop) ≤ budget := by
  have hgrow : a.stop ≤ (a.grow (min share (budget - spent))).stop ∧
      (a.grow (min share (budget - spent))).stop ≤ a.stop + min share (budget - spent) :=
    Lot.stop_grow_bounds ha (by omega)
  simp only
  omega

/-- A pass leaves every partition sound, takes nothing back and stays within the budget. -/
theorem pass_bounds (hs : 0 ≤ share) (hb : spent ≤ budget) (hl : ∀ a ∈ lots, a.Sound) :
    spent ≤ (pass budget share spent lots).1 ∧ (pass budget share spent lots).1 ≤ budget ∧
      ∀ a ∈ (pass budget share spent lots).2, a.Sound := by
  induction lots generalizing spent with
  | nil => exact ⟨Int.le_refl _, hb, hl⟩
  | cons a rest ih =>
    have ha := hl a List.mem_cons_self
    have hrest : ∀ b ∈ rest, b.Sound := fun b hb => hl b (List.mem_cons_of_mem a hb)
    by_cases h : a.drained = true
    · obtain ⟨hge, hle, hsound⟩ := ih hb hrest
      rw [pass_cons_drained h]
      exact ⟨hge, hle, List.forall_mem_cons.2 ⟨ha, hsound⟩⟩
    · obtain ⟨hnext, hnext'⟩ := next_spent_le ha hs hb
      obtain ⟨hge, hle, hsound⟩ := ih hnext' hrest
      rw [pass_cons_open h]
      refine ⟨Int.le_trans hnext hge, hle, List.forall_mem_cons.2 ⟨ha.grow ?_, hsound⟩⟩
      omega

theorem openCount_pass_le (budget share spent : Int) (lots : List Lot) :
    openCount (pass budget share spent lots).2 ≤ openCount lots := by
  induction lots generalizing spent with
  | nil => exact Nat.le_refl _
  | cons a rest ih =>
    by_cases h : a.drained = true
    · rw [pass_cons_drained h, openCount_cons_drained h, openCount_cons_drained h]
      exact ih spent
    · rw [pass_cons_open h, openCount_cons_open h]
      exact Nat.le_trans (openCount_cons_le _ _) (Nat.succ_le_succ (ih _))

/-- A pass that drains no partition grants each share in full, as far as the budget goes. -/
theorem pass_spent_of_openCount_eq (hs : 0 ≤ share) (hb : spent ≤ budget)
    (h : openCount (pass budget share spent lots).2 = openCount lots) :
    (pass budget share spent lots).1 = min budget (spent + share * openCount lots) := by
  induction lots generalizing spent with
  | nil =>
    simp only [pass, openCount_nil]
    omega
  | cons a rest ih =>
    by_cases hd : a.drained = true
    · rw [pass_cons_drained hd, openCount_cons_drained hd, openCount_cons_drained hd] at h
      rw [pass_cons_drained hd, openCount_cons_drained hd]
      exact ih hb h
    · rw [pass_cons_open hd, openCount_cons_open hd] at h
      rw [pass_cons_open hd, openCount_cons_open hd]
      have hle := openCount_pass_le budget share
        (spent + ((a.grow (min share (budget - spent))).stop - a.stop)) rest
      -- if this grant drained its partition, the pass would leave fewer partitions open
      have hopen : ¬ (a.grow (min share (budget - spent))).drained = true := fun hdr => by
        rw [openCount_cons_drained hdr] at h
        omega
      rw [openCount_cons_open hopen] at h
      have hstop := Lot.stop_grow_of_open hopen
      have hnext : (pass budget share
          (spent + ((a.grow (min share (budget - spent))).stop - a.stop)) rest).1 = min budget _ :=
        ih (by omega) (Nat.succ.inj h)
      have hshares : share * ↑(openCount rest + 1) = share * ↑(openCount rest) + share := by
        rw [Int.natCast_add, Int.mul_add, Int.natCast_one, Int.mul_one]
      have hpos : 0 ≤ share * ↑(openCount rest) := Int.mul_nonneg hs (Int.natCast_nonneg _)
      simp only
      rw [hnext, hshares]
      omega

end Pass

/-! ## All passes -/

/-- Shares rounded up are enough together. -/
theorem le_ceilDiv_mul {a b : Int} (hb : 0 < b) : a ≤ ceilDiv a b * b := by
  have hsplit := Int.mul_ediv_add_emod (a + b - 1) b
  have hlt := Int.emod_lt_of_pos (a + b - 1) hb
  rw [ceilDiv, Int.mul_comm]
  omega

theorem ceilDiv_nonneg {a b : Int} (ha : 0 ≤ a) (hb : 0 < b) : 0 ≤ ceilDiv a b :=
  Int.ediv_nonneg (by omega) (Int.le_of_lt hb)

theorem map_frame_fill (budget spent : Int) (lots : List Lot) :
    (fill budget spent lots).2.map Lot.frame = lots.map Lot.frame := by
  fun_induction fill budget spent lots with
  | case1 spent lots _ share next _ ih => rw [ih, map_frame_pass]
  | case2 spent lots => exact map_frame_pass ..
  | case3 => rfl

theorem fill_spent_eq (budget spent : Int) (lots : List Lot) :
    (fill budget spent lots).1 = spent + (granted (fill budget spent lots).2 - granted lots) := by
  fun_induction fill budget spent lots with
  | case1 spent lots _ share next _ ih =>
    have hpass : next.1 = spent + (granted next.2 - granted lots) := pass_spent ..
    omega
  | case2 spent lots => exact pass_spent ..
  | case3 spent lots =>
    simp only
    omega

theorem fill_bounds {budget spent : Int} {lots : List Lot} (hb : spent ≤ budget)
    (hl : ∀ a ∈ lots, a.Sound) :
    (fill budget spent lots).1 ≤ budget ∧ ∀ a ∈ (fill budget spent lots).2, a.Sound := by
  fun_induction fill budget spent lots with
  | case1 spent lots hgo share next _ ih =>
    have hshare : 0 ≤ share := ceilDiv_nonneg (by omega) (by omega)
    obtain ⟨_, hle, hsound⟩ := pass_bounds hshare hb hl
    exact ih hle hsound
  | case2 spent lots hgo share next =>
    have hshare : 0 ≤ share := ceilDiv_nonneg (by omega) (by omega)
    exact (pass_bounds hshare hb hl).2
  | case3 => exact ⟨hb, hl⟩

/-- A pass either drains a partition or spends the rest of the budget. -/
theorem openCount_pass_lt_or_spent {budget spent : Int} {lots : List Lot} (hb : spent ≤ budget)
    (ho : 0 < openCount lots) :
    let next := pass budget (ceilDiv (budget - spent) (openCount lots)) spent lots
    openCount next.2 < openCount lots ∨ next.1 = budget := by
  intro next
  have hle : openCount next.2 ≤ openCount lots := openCount_pass_le ..
  rcases Nat.lt_or_eq_of_le hle with hlt | heq
  · exact .inl hlt
  · have hshare : 0 ≤ ceilDiv (budget - spent) (openCount lots) :=
      ceilDiv_nonneg (by omega) (by omega)
    have hspent : next.1 = min budget _ := pass_spent_of_openCount_eq hshare hb heq
    have henough := le_ceilDiv_mul (a := budget - spent) (b := openCount lots) (by omega)
    exact .inr (by omega)

/-- The passes end when the budget is spent or when no partition is open. -/
theorem fill_done {budget spent : Int} {lots : List Lot} (hb : spent ≤ budget)
    (hl : ∀ a ∈ lots, a.Sound) :
    (fill budget spent lots).1 = budget ∨ openCount (fill budget spent lots).2 = 0 := by
  fun_induction fill budget spent lots with
  | case1 spent lots hgo share next _ ih =>
    have hshare : 0 ≤ share := ceilDiv_nonneg (by omega) (by omega)
    obtain ⟨_, hle, hsound⟩ := pass_bounds hshare hb hl
    exact ih hle hsound
  | case2 spent lots hgo share next hlast =>
    -- The last pass drained no partition, so it spent the rest.
    exact .inl ((openCount_pass_lt_or_spent hb hgo.2).resolve_left hlast)
  | case3 spent lots hstop =>
    simp only
    omega

/-! ## The sum -/

theorem backlog_eq_of_map_frame_eq {lots lots' : List Lot}
    (h : lots.map Lot.frame = lots'.map Lot.frame) : backlog lots = backlog lots' := by
  have hback : ∀ l : List Lot, backlog l = ((l.map Lot.frame).map fun f => f.2.2 - f.2.1).sum :=
    fun l => by simp [backlog, Lot.frame, Function.comp_def]
  rw [hback, hback, h]

theorem granted_le_backlog {lots : List Lot} (h : ∀ a ∈ lots, a.Sound) :
    granted lots ≤ backlog lots :=
  List.sum_le_sum fun a ha => by
    have := (h a ha).stop_le_cap
    omega

theorem granted_eq_backlog {lots : List Lot} (h : ∀ a ∈ lots, a.stop = a.cap) :
    granted lots = backlog lots :=
  congrArg List.sum (List.map_congr_left fun a ha => by rw [h a ha])

/-- Where as much is granted as there is, no partition lacks anything. -/
theorem stop_eq_cap_of_backlog_le {lots : List Lot} (h : ∀ a ∈ lots, a.Sound)
    (hb : backlog lots ≤ granted lots) : ∀ a ∈ lots, a.stop = a.cap := by
  induction lots with
  | nil => simp
  | cons a rest ih =>
    obtain ⟨ha, hrest⟩ := List.forall_mem_cons.1 h
    have hle := ha.stop_le_cap
    have hle' := granted_le_backlog hrest
    rw [backlog_cons, granted_cons] at hb
    exact List.forall_mem_cons.2 ⟨by omega, ih hrest (by omega)⟩

/-- From the first pass on, exactly the lesser one of budget and backlog is handed out. -/
theorem fill_spent {budget : Int} {lots : List Lot} (hb : 0 ≤ budget)
    (hl : ∀ a ∈ lots, a.Sound) (hnone : granted lots = 0) :
    granted (fill budget 0 lots).2 = min budget (backlog lots) := by
  obtain ⟨hle, hsound⟩ := fill_bounds hb hl
  have hspent := fill_spent_eq budget 0 lots
  have hback := backlog_eq_of_map_frame_eq (map_frame_fill budget 0 lots)
  have hgranted := granted_le_backlog hsound
  rcases fill_done hb hl with hall | hdrained
  · omega
  · have heq : granted (fill budget 0 lots).2 = backlog (fill budget 0 lots).2 :=
      granted_eq_backlog fun a ha =>
        (hsound a ha).stop_eq_cap (drained_of_openCount_eq_zero hdrained a ha)
    omega

end LogIntake.Unbounded
