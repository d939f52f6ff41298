import LogIntake.Proofs.Cycle.Stages

/-!
# The two parts of a cycle

A cycle first asks the broker where the partitions start and end. From what it is told it then
assembles a plan, for which it needs the broker no more.

## Main definitions

- `Survey`: what a cycle gets to know.
- `survey`, `assemble`: the part of a cycle that talks to the broker, and the part behind it.

## Main statements

- `planCycle_eq_survey`: a cycle is a survey and what is assembled from it.
- `yields_survey_iff`, `yields_assemble_iff`: what the two parts yield.
- `exists_stages_of_planCycle`: a plan comes from the results of all stages.
-/

namespace LogIntake

variable {σ α β γ : Type}

/-! ## Sessions in sequence -/

namespace Session

theorem bind_assoc_eq (m : Session σ α) (f : α → Session σ β) (g : β → Session σ γ) :
    m >>= f >>= g = m >>= fun a => f a >>= g := by
  funext s
  show (m >>= f >>= g).run s = (m >>= fun a => f a >>= g).run s
  cases hm : (m.run s).result with
  | error e =>
    have hf : ((m >>= f).run s).result = .error e := by rw [run_bind_of_error hm]
    rw [run_bind_of_error hf, run_bind_of_error hm, run_bind_of_error hm]
  | ok a =>
    have hrun := run_bind_of_ok (f := f) hm
    cases hf : ((f a).run (m.run s).state).result with
    | error e =>
      have hmf : ((m >>= f).run s).result = .error e := by rw [hrun, hf]
      rw [run_bind_of_error hmf, hrun, run_bind_of_ok hm, run_bind_of_error hf]
    | ok b =>
      have hmf : ((m >>= f).run s).result = .ok b := by rw [hrun, hf]
      rw [run_bind_of_ok hmf, hrun, run_bind_of_ok hm, run_bind_of_ok hf]
      simp only [List.append_assoc]

theorem bind_pure_eq (m : Session σ α) : m >>= pure = m := by
  funext s
  show (m >>= pure).run s = m.run s
  cases hm : (m.run s).result with
  | error e => rw [run_bind_of_error hm, ← hm]
  | ok a =>
    rw [run_bind_of_ok hm]
    simp [← hm]

instance : LawfulMonad (Session σ) :=
  LawfulMonad.mk' _ (fun m => bind_pure_eq m) (fun a f => pure_bind_eq a f) bind_assoc_eq

end Session

open Session

/-! ## The two parts of a cycle -/

/-- What a cycle gets to know: the listed partitions, where they start, and where they end. -/
structure Survey where
  listed : PartitionSet
  starts : OffsetTable
  stops : OffsetTable

/-- The part of a cycle that talks to the broker. -/
def survey (broker : Broker σ) (log : String) (settings : PlannerSettings)
    (checkpoint : Checkpoint) : Session σ Survey := do
  let listed ← askPartitions broker log
  requireListed log listed
  let known ← chooseStarts broker settings checkpoint listed
  let starts ← startDiscovered broker settings.discovered listed known
  warnDropped log (vanished starts listed)
  let stops ← askLatest broker listed
  requireComplete .stop listed stops
  return ⟨listed, starts, stops⟩

/-- The part of a cycle behind its survey. -/
def assemble (log : String) (budget : Int64) (found : Survey) : Session σ Plan := do
  let allocation ← ofExcept .allocation (allocate found.starts found.stops budget)
  emit (CycleEvent.allocated allocation budget)
  let text ← ofExcept .encoding (Checkpoint.ofRanges log allocation.ranges).encode
  let plan : Plan := ⟨allocation.ranges, text⟩
  emit (CycleEvent.planned log plan budget)
  return plan

theorem planCycle_eq_survey (broker : Broker σ) (log : String) (settings : PlannerSettings)
    (previous : String) (budget : Int64) :
    planCycle broker log settings previous budget =
      ofExcept id (readCheckpoint log previous) >>= fun checkpoint =>
        survey broker log settings checkpoint >>= assemble log budget := by
  simp only [planCycle, survey, assemble, bind_assoc, pure_bind]

/-! ## What the parts yield -/

section Yields

variable {broker : Broker σ} {log : String} {settings : PlannerSettings}
  {checkpoint : Checkpoint} {found : Survey} {budget : Int64} {plan : Plan} {s s' : σ}

/-- Checks and warnings leave the broker as it is, so that only three states lie in between. -/
theorem yields_survey_iff :
    Yields (survey broker log settings checkpoint) s found s' ↔
      ∃ known s₁ s₂,
        (broker.list log s).answer = .ok found.listed ∧ found.listed ≠ .empty ∧
        Yields (chooseStarts broker settings checkpoint found.listed) (broker.list log s).state
          known s₁ ∧
        Yields (startDiscovered broker settings.discovered found.listed known) s₁ found.starts s₂ ∧
        (broker.latest found.listed s₂).answer = .ok found.stops ∧
        Complete found.listed found.stops ∧ s' = (broker.latest found.listed s₂).state := by
  simp only [survey, askPartitions, askLatest, yields_bind_iff, yields_call_iff,
    yields_requireListed_iff, yields_warnDropped_iff, yields_requireComplete_iff,
    yields_pure_iff]
  constructor
  · rintro ⟨listed, _, ⟨hlist, rfl⟩, _, _, ⟨hsome, rfl⟩, known, s₁, hchoose, h⟩
    obtain ⟨starts, _, hdiscover, _, s₂, rfl, stops, _, ⟨hlatest, rfl⟩, h⟩ := h
    obtain ⟨_, _, ⟨hcomplete, rfl⟩, rfl, rfl⟩ := h
    exact ⟨known, s₁, s₂, hlist, hsome, hchoose, hdiscover, hlatest, hcomplete, rfl⟩
  · rintro ⟨known, s₁, s₂, hlist, hsome, hchoose, hdiscover, hlatest, hcomplete, rfl⟩
    exact ⟨found.listed, _, ⟨hlist, rfl⟩, (), _, ⟨hsome, rfl⟩, known, s₁, hchoose, found.starts,
      s₂, hdiscover, (), s₂, rfl, found.stops, _, ⟨hlatest, rfl⟩, (), _, ⟨hcomplete, rfl⟩, rfl,
      rfl⟩

theorem yields_assemble_iff :
    Yields (assemble log budget found) s plan s' ↔
      (∃ allocation, allocate found.starts found.stops budget = .ok allocation ∧
        plan.ranges = allocation.ranges) ∧
      (Checkpoint.ofRanges log plan.ranges).encode = .ok plan.checkpoint ∧ s' = s := by
  simp only [assemble, yields_bind_iff, yields_ofExcept_iff, yields_emit_iff, yields_pure_iff]
  constructor
  · rintro ⟨allocation, _, ⟨hallocate, rfl⟩, _, _, rfl, text, _, ⟨hencode, rfl⟩, hlast⟩
    obtain ⟨_, _, rfl, rfl, rfl⟩ := hlast
    exact ⟨⟨allocation, hallocate, rfl⟩, hencode, rfl⟩
  · rintro ⟨⟨allocation, hallocate, hranges⟩, hencode, rfl⟩
    rw [hranges] at hencode
    refine ⟨allocation, _, ⟨hallocate, rfl⟩, (), _, rfl, plan.checkpoint, _, ⟨hencode, rfl⟩, (), _,
      rfl, ?_, rfl⟩
    rw [← hranges]

/-- A plan comes from the results of all stages. -/
theorem exists_stages_of_planCycle {previous : String}
    (h : ((planCycle broker log settings previous budget).run s).result = .ok plan) :
    ∃ checkpoint listed known starts stops allocation s₁ s₂,
      readCheckpoint log previous = .ok checkpoint ∧
      (broker.list log s).answer = .ok listed ∧ listed ≠ .empty ∧
      Yields (chooseStarts broker settings checkpoint listed) (broker.list log s).state known s₁ ∧
      Yields (startDiscovered broker settings.discovered listed known) s₁ starts s₂ ∧
      (broker.latest listed s₂).answer = .ok stops ∧ Complete listed stops ∧
      allocate starts stops budget = .ok allocation ∧ plan.ranges = allocation.ranges ∧
      (Checkpoint.ofRanges log plan.ranges).encode = .ok plan.checkpoint := by
  obtain ⟨s', hyields⟩ := result_eq_ok_iff.1 h
  rw [planCycle_eq_survey] at hyields
  obtain ⟨checkpoint, _, hcheckpoint, hrest⟩ := yields_bind_iff.1 hyields
  obtain ⟨hread, rfl⟩ := yields_ofExcept_iff.1 hcheckpoint
  obtain ⟨found, _, hsurvey, hassemble⟩ := yields_bind_iff.1 hrest
  obtain ⟨known, s₁, s₂, hlist, hsome, hchoose, hdiscover, hlatest, hcomplete, -⟩ :=
    yields_survey_iff.1 hsurvey
  obtain ⟨⟨allocation, hallocate, hranges⟩, hencode, -⟩ := yields_assemble_iff.1 hassemble
  exact ⟨checkpoint, found.listed, known, found.starts, found.stops, allocation, s₁, s₂, hread,
    hlist, hsome, hchoose, hdiscover, hlatest, hcomplete, hallocate, hranges, hencode⟩

end Yields

end LogIntake
