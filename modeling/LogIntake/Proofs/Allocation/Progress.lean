import LogIntake.Proofs.Allocation.Exact

/-!
# Progress of an allocation

The passes of an allocation as a loop that goes on while there is budget left and a partition is
not drained. Each pass drains a partition or spends all that is left, so that there are at most as
many passes as partitions, however large the budget and the offsets are.

## Main definitions

- `Ledger`: what is carried from pass to pass.
- `Ledger.GoesOn`, `Ledger.next`, `Ledger.midway`: the condition of the loop, its body, and the
  states within its body.
- `Passes`: a number of passes in a row.
- `Ledger.Sound`: what holds before and after each pass.

## Main statements

- `Ledger.Sound.next`, `Ledger.Sound.of_passes`: a pass, and so a run of passes, keeps the ledger
  sound.
- `Ledger.Sound.advances`: each pass drains a partition or spends the rest.
- `Ledger.Sound.le_openCount`, `Ledger.Sound.exists_passes_fill`: how many passes there are, and
  that they end.
-/

namespace LogIntake

open Unbounded

/-- The partitions that are drained. -/
def Allocation.exhausted (lots : List Allotment) : List Partition :=
  (lots.filter (·.drained)).map (·.partition)

/-- What is carried from pass to pass: how many records are granted so far, and the partitions. -/
abbrev Ledger : Type := Int64 × List Allotment

namespace Ledger

/-- There is budget left, and a partition that is not drained. -/
def GoesOn (budget : Int64) (s : Ledger) : Prop :=
  s.1 < budget ∧ 0 < Allocation.openCount s.2

/-- By how many the rest of the budget is divided in a pass. -/
def divisor (s : Ledger) : Int64 := Word.ofCount (Allocation.openCount s.2)

def share (budget : Int64) (s : Ledger) : Int64 := Word.ceilDiv (budget - s.1) s.divisor

/-- The ledger after one more pass. -/
def next (budget : Int64) (s : Ledger) : Ledger :=
  Allocation.pass budget (s.share budget) s.1 s.2

/-- The ledger within a pass, when the first `k` partitions had their turn. -/
def midway (budget : Int64) (s : Ledger) (k : Nat) : Ledger :=
  let done := Allocation.pass budget (s.share budget) s.1 (s.2.take k)
  (done.1, done.2 ++ s.2.drop k)

/-- The drained partitions are read up to their ends. -/
def ReadsDrained (ends : OffsetTable) (s : Ledger) : Prop :=
  ∀ a ∈ s.2, a.drained = true → ends.get? a.partition = some a.stop

/-- What one pass does: it divides by a positive number, marks no partition but one that is read
up to its end, unmarks none, and marks a new one or spends the rest of the budget. -/
structure Advances (ends : OffsetTable) (budget : Int64) (s : Ledger) : Prop where
  divisor_pos : 0 < s.divisor
  midway : ∀ k, ReadsDrained ends (s.midway budget k)
  keeps : Allocation.exhausted s.2 ⊆ Allocation.exhausted (s.next budget).2
  drains_or_spends :
    (∃ p ∈ Allocation.exhausted (s.next budget).2, p ∉ Allocation.exhausted s.2) ∨
      (s.next budget).1 = budget

end Ledger

namespace Allocation

theorem length_exhausted_add_openCount (lots : List Allotment) :
    (exhausted lots).length + openCount lots = lots.length := by
  rw [exhausted, List.length_map, ← List.countP_eq_length_filter, openCount,
    List.length_eq_countP_add_countP (·.drained)]
  simp only [Bool.not_eq_true, Bool.decide_eq_false]

theorem exhausted_subset_cons (a : Allotment) (rest : List Allotment) :
    exhausted rest ⊆ exhausted (a :: rest) :=
  List.Sublist.subset (((List.sublist_cons_self a rest).filter _).map _)

/-- A partition that is drained takes no part in a pass. -/
theorem exhausted_subset_pass (budget share spent : Int64) (lots : List Allotment) :
    exhausted lots ⊆ exhausted (pass budget share spent lots).2 := by
  induction lots generalizing spent with
  | nil => exact List.Subset.refl _
  | cons a rest ih =>
    rw [pass]
    by_cases hd : a.drained = true
    · have hcons : ∀ l : List Allotment, exhausted (a :: l) = a.partition :: exhausted l :=
        fun l => by simp [exhausted, hd]
      rw [if_pos hd, hcons, hcons]
      exact List.cons_subset_cons _ (ih spent)
    · have hcons : exhausted (a :: rest) = exhausted rest := by simp [exhausted, hd]
      rw [if_neg hd, hcons]
      exact List.Subset.trans (ih _) (exhausted_subset_cons _ _)

end Allocation

/-- `Passes budget n s s'` says that `n` passes in a row lead from `s` to `s'`. -/
inductive Passes (budget : Int64) : Nat → Ledger → Ledger → Prop
  | zero (s : Ledger) : Passes budget 0 s s
  | step {n : Nat} {s s' : Ledger} :
      s.GoesOn budget → Passes budget n (s.next budget) s' → Passes budget (n + 1) s s'

namespace Ledger

/-- What holds before and after each pass of an allocation. -/
structure Sound (starts ends : OffsetTable) (budget : Int64) (s : Ledger) : Prop where
  spent_nonneg : 0 ≤ s.1.toInt
  spent_le_budget : s.1.toInt ≤ budget.toInt
  lots_sound : ∀ a ∈ s.2, a.unbounded.Sound
  map_frame : s.2.map (fun a => a.unbounded.frame) =
    ends.entries.map fun e => (e.1, (starts.startAt e.1).toInt, e.2.toInt)

variable {starts ends : OffsetTable} {budget : Int64} {s s' : Ledger}

theorem sound_initial (h : Allocatable starts ends budget) :
    Sound starts ends budget (0, Allocation.initialLots starts ends) where
  spent_nonneg := Int.le_refl 0
  spent_le_budget := Int64.le_iff_toInt_le.1 h.budget_nonneg
  lots_sound := Allocation.initialLots_sound h
  map_frame := Allocation.map_frame_initialLots starts ends

theorem Sound.length_eq (h : Sound starts ends budget s) : s.2.length = ends.size := by
  have hlength := congrArg List.length h.map_frame
  rwa [List.length_map, List.length_map] at hlength

theorem Sound.nodup_exhausted (h : Sound starts ends budget s) :
    (Allocation.exhausted s.2).Nodup := by
  have hkeys := ends.keys_nodup
  rw [← Allocation.map_partition_of_map_frame h.map_frame] at hkeys
  exact hkeys.sublist (List.filter_sublist.map _)

/-! ## One pass -/

theorem share_nonneg (h : Sound starts ends budget s) (hgo : s.GoesOn budget) :
    0 ≤ (s.share budget).toInt :=
  Allocation.next_share_nonneg hgo h.spent_nonneg

theorem Sound.midway (h : Sound starts ends budget s) (hgo : s.GoesOn budget) (k : Nat) :
    Sound starts ends budget (s.midway budget k) := by
  have hl : ∀ a ∈ s.2.take k, a.unbounded.Sound := fun a ha =>
    h.lots_sound a (List.mem_of_mem_take ha)
  obtain ⟨hge, hle, hsound, hframe⟩ := Allocation.pass_sound (share_nonneg h hgo)
    h.spent_nonneg h.spent_le_budget hl
  refine ⟨hge, hle, ?_, ?_⟩
  · intro a ha
    rcases List.mem_append.1 ha with ha | ha
    · exact hsound a ha
    · exact h.lots_sound a (List.mem_of_mem_drop ha)
  · rw [← h.map_frame, Ledger.midway, List.map_append, hframe, ← List.map_append,
      List.take_append_drop]

/-- When all partitions had their turn, the pass is over. -/
theorem midway_length (budget : Int64) (s : Ledger) :
    s.midway budget s.2.length = s.next budget := by
  rw [Ledger.midway, List.take_length, List.drop_length, List.append_nil]
  rfl

theorem Sound.next (h : Sound starts ends budget s) (hgo : s.GoesOn budget) :
    Sound starts ends budget (s.next budget) := by
  rw [← midway_length]
  exact h.midway hgo _

theorem Sound.readsDrained (h : Sound starts ends budget s) : ReadsDrained ends s := by
  intro a ha hdrained
  obtain ⟨hend, -⟩ := Allocation.exists_entry_of_mem h.map_frame ha
  have hstop : a.stop = a.cap := Int64.toInt_inj.1 ((h.lots_sound a ha).stop_eq_cap hdrained)
  rw [hstop]
  exact hend

theorem divisor_pos (hgo : s.GoesOn budget) : 0 < s.divisor := by
  have hcount := Word.toInt_ofCount (Allocation.openCount s.2)
  rw [Word.toInt_greatest] at hcount
  have hopen := hgo.2
  have h0 : (0 : Int64).toInt = 0 := rfl
  rw [Int64.lt_iff_toInt_lt, divisor]
  omega

/-- A pass leaves fewer partitions open or spends the rest of the budget. -/
theorem Sound.openCount_next_lt_or_spent (h : Sound starts ends budget s)
    (hgo : s.GoesOn budget) :
    Allocation.openCount (s.next budget).2 < Allocation.openCount s.2 ∨
      (s.next budget).1 = budget := by
  have hopen : 0 < Unbounded.openCount (s.2.map Allotment.unbounded) := by
    rw [Allocation.openCount_map_unbounded]
    exact hgo.2
  have hor := openCount_pass_lt_or_spent h.spent_le_budget hopen
  rw [Allocation.openCount_map_unbounded,
    Allocation.next_unbounded hgo h.spent_nonneg h.lots_sound] at hor
  simp only [Allocation.openCount_map_unbounded, Int64.toInt_inj] at hor
  exact hor

/-- A pass that leaves fewer partitions open has drained one that was not drained before. -/
theorem Sound.exists_newly_exhausted (h : Sound starts ends budget s) (hgo : s.GoesOn budget)
    (hlt : Allocation.openCount (s.next budget).2 < Allocation.openCount s.2) :
    ∃ p ∈ Allocation.exhausted (s.next budget).2, p ∉ Allocation.exhausted s.2 := by
  by_contra hnone
  push Not at hnone
  have hnext := h.next hgo
  have hle := (List.subperm_of_subset hnext.nodup_exhausted hnone).length_le
  have hcount := Allocation.length_exhausted_add_openCount s.2
  have hcount' := Allocation.length_exhausted_add_openCount (s.next budget).2
  have hlength := h.length_eq.trans hnext.length_eq.symm
  omega

theorem Sound.advances (h : Sound starts ends budget s) (hgo : s.GoesOn budget) :
    Advances ends budget s where
  divisor_pos := divisor_pos hgo
  midway k := (h.midway hgo k).readsDrained
  keeps := Allocation.exhausted_subset_pass ..
  drains_or_spends := (h.openCount_next_lt_or_spent hgo).imp_left (h.exists_newly_exhausted hgo)

/-! ## A run of passes -/

theorem not_goesOn_of_spent (h : s.1 = budget) : ¬ s.GoesOn budget := fun hgo =>
  Int64.lt_irrefl (h ▸ hgo.1)

theorem Sound.of_passes {n : Nat} (h : Sound starts ends budget s)
    (hrun : Passes budget n s s') : Sound starts ends budget s' := by
  induction hrun with
  | zero => exact h
  | step hgo _ ih => exact ih (h.next hgo)

/-- There are at most as many passes as partitions that are open. -/
theorem Sound.le_openCount {n : Nat} (h : Sound starts ends budget s)
    (hrun : Passes budget n s s') : n ≤ Allocation.openCount s.2 := by
  induction hrun with
  | zero => exact Nat.zero_le _
  | @step n s s' hgo hrest ih =>
    rcases h.openCount_next_lt_or_spent hgo with hlt | hspent
    · have hle := ih (h.next hgo)
      omega
    · -- With nothing left of the budget there is no further pass.
      have hlast : n = 0 := by
        cases hrest with
        | zero => rfl
        | step hgo' _ => exact absurd hgo' (not_goesOn_of_spent hspent)
      have hopen := hgo.2
      omega

/-- The passes come to an end, and to what the allocation says. -/
theorem Sound.exists_passes_fill (h : Sound starts ends budget s) :
    ∃ n, Passes budget n s (Allocation.fill budget s.1 s.2) ∧
      ¬ GoesOn budget (Allocation.fill budget s.1 s.2) := by
  obtain ⟨spent, lots⟩ := s
  fun_induction Allocation.fill budget spent lots with
  | case1 spent lots hgo share next hlt ih =>
    obtain ⟨n, hrun, hend⟩ := ih (h.next hgo)
    exact ⟨n + 1, .step hgo hrun, hend⟩
  | case2 spent lots hgo share next hlast =>
    have hspent := (h.openCount_next_lt_or_spent hgo).resolve_left hlast
    exact ⟨1, .step hgo (.zero _), not_goesOn_of_spent hspent⟩
  | case3 spent lots hstop => exact ⟨0, .zero _, hstop⟩

end Ledger

/-! ## The whole allocation -/

/-- Whatever state the passes of an allocation reach, at most as many passes as there are
partitions led there, the drained partitions are read up to their ends, and another pass drains a
partition or spends the rest of the budget. So the passes end, and with them the allocation. -/
theorem allocate_advances {starts ends : OffsetTable} {budget : Int64}
    (h : Allocatable starts ends budget) :
    (∀ n s, Passes budget n (0, Allocation.initialLots starts ends) s →
      n ≤ ends.size ∧ s.ReadsDrained ends ∧ (s.GoesOn budget → s.Advances ends budget)) ∧
    ∃ n s, n ≤ ends.size ∧ Passes budget n (0, Allocation.initialLots starts ends) s ∧
      ¬ s.GoesOn budget ∧ allocate starts ends budget = .ok (.ofFilled s) := by
  have hfirst := Ledger.sound_initial h
  have hsize : Allocation.openCount (Allocation.initialLots starts ends) ≤ ends.size :=
    Nat.le_of_eq (Allocation.openCount_initialLots starts ends)
  constructor
  · intro n s hrun
    have hsound := hfirst.of_passes hrun
    exact ⟨(hfirst.le_openCount hrun).trans hsize, hsound.readsDrained, hsound.advances⟩
  · obtain ⟨n, hrun, hend⟩ := hfirst.exists_passes_fill
    exact ⟨n, _, (hfirst.le_openCount hrun).trans hsize, hrun, hend,
      Allocation.allocate_eq_ok_ofFilled h⟩

/-- The first pass drains one partition, the second one spends the rest on the others. -/
theorem allocate_advances_orders :
    let ends : OffsetTable :=
      .ofList [(⟨"orders", 0⟩, 5), (⟨"orders", 1⟩, 100), (⟨"orders", 2⟩, 100)]
    let first : Ledger := (0, Allocation.initialLots .empty ends)
    Allocatable .empty ends 100 ∧ first.Advances ends 100 ∧
      ∃ n s, n ≤ 3 ∧ Passes 100 n first s ∧ ¬ s.GoesOn 100 ∧
        allocate .empty ends 100 = .ok (.ofFilled s) := by
  intro ends first
  have hallocate : allocate .empty ends 100 =
      .ok ⟨[⟨⟨"orders", 0⟩, 0, 5⟩, ⟨⟨"orders", 1⟩, 0, 48⟩, ⟨⟨"orders", 2⟩, 0, 47⟩], 100, 1⟩ := by
    decide +kernel
  have hinputs := allocatable_of_allocate hallocate
  obtain ⟨hsteps, hend⟩ := allocate_advances hinputs
  have hgo : first.GoesOn 100 := by
    constructor
    · decide
    · decide +kernel
  exact ⟨hinputs, (hsteps 0 first (.zero _)).2.2 hgo, hend⟩

end LogIntake
