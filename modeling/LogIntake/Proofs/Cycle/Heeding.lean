import LogIntake.Proofs.Cycle.Report

/-!
# Answers that end a cycle

A call may fail, and an answer may leave something out. Either one ends the cycle at once: no call
is made behind it, and the cycle fails. As long as neither happens, the broker is not a reason to
fail.

## Main definitions

- `Exchange.Usable`: a broker has given all that it was asked for.
- `Session.Heeds`: a session ends at the first answer that is not usable, and only there.

## Main statements

- `Session.Heeds.bind`: sessions in sequence heed the broker if each of them does.
- `heeds_survey`: surveys heed the broker.
-/

namespace LogIntake

open Session

variable {σ α β : Type}

/-! ## Answers -/

/-- The call did not fail, and nothing is missing in its answer. -/
def Exchange.Usable : Exchange → Prop
  | .list _ answer => ∃ listed, answer = .ok listed ∧ listed ≠ .empty
  | .earliest asked answer | .latest asked answer =>
    ∃ offsets, answer = .ok offsets ∧ Complete asked offsets

/-- The call failed with `f`. -/
def Exchange.Failed : Exchange → Failure → Prop
  | .list _ answer, f => answer = .error f
  | .earliest _ answer, f | .latest _ answer, f => answer = .error f

theorem Exchange.Usable.not_failed {x : Exchange} (h : x.Usable) (f : Failure) :
    ¬ x.Failed f := by
  cases x <;>
  · obtain ⟨a, rfl, -⟩ := h
    rintro ⟨⟩

/-! ## Sessions that heed their broker -/

namespace Session

/-- Run from `s`, the session has heard usable answers only and has a result, or the last answer is
the first one that is not usable, and the session failed for it: a failed call passes its failure
on, and where something is missing the broker counts as unavailable. -/
inductive Heeds (broker : Broker σ) (m : Session σ α) (s : σ) : Prop
  | done (a : α) (s' : σ) (hyields : Yields m s a s')
      (husable : ∀ x ∈ broker.exchanges s (m.run s).calls, x.Usable)
  | halted (before : List Exchange) (x : Exchange)
      (hheard : broker.exchanges s (m.run s).calls = before ++ [x])
      (hbefore : ∀ y ∈ before, y.Usable) (hunusable : ¬ x.Usable) (e : CycleError)
      (herror : (m.run s).result = .error e) (hfailed : ∀ f, x.Failed f → e = .broker f)
      (hkind : (∀ f, ¬ x.Failed f) → e.failure.kind = .brokerUnavailable)

variable {broker : Broker σ} {m : Session σ α} {f : α → Session σ β} {s s' : σ} {a : α}

theorem Heeds.exists_yields (h : Heeds broker m s)
    (husable : ∀ x ∈ broker.exchanges s (m.run s).calls, x.Usable) : ∃ a s', Yields m s a s' := by
  cases h with
  | done a s' hyields => exact ⟨a, s', hyields⟩
  | halted before x hheard _ hunusable =>
    rw [hheard] at husable
    exact absurd (husable x (by simp)) hunusable

/-- Nothing is heard behind an answer that is not usable. -/
theorem Heeds.eq_nil_of_append (h : Heeds broker m s) {before after : List Exchange} {x : Exchange}
    (hheard : broker.exchanges s (m.run s).calls = before ++ x :: after)
    (hunusable : ¬ x.Usable) : after = [] := by
  cases h with
  | done a s' _ husable =>
    rw [hheard] at husable
    exact absurd (husable x (by simp)) hunusable
  | halted before' x' hheard' hbefore =>
    -- Behind `x` there is nothing but what stands behind it in `before'`, where it cannot be.
    rw [hheard'] at hheard
    rcases List.append_eq_append_iff.1 hheard with ⟨l, rfl, hl⟩ | ⟨l, rfl, hl⟩
    · cases l with
      | nil => exact (List.cons.inj hl.symm).2
      | cons y l => simp at hl
    · cases l with
      | nil => exact (List.cons.inj hl).2
      | cons y l =>
        obtain ⟨rfl, -⟩ := List.cons.inj hl
        exact absurd (hbefore x (by simp)) hunusable

theorem Heeds.result_of_failed (h : Heeds broker m s) {x : Exchange}
    (hx : x ∈ broker.exchanges s (m.run s).calls) {f : Failure} (hfailed : x.Failed f) :
    (m.run s).result = .error (.broker f) := by
  cases h with
  | done a s' _ husable => exact absurd hfailed ((husable x hx).not_failed f)
  | halted before x' hheard hbefore _ e herror hbroker _ =>
    rw [hheard] at hx
    rcases List.mem_append.1 hx with hx | hx
    · exact absurd hfailed ((hbefore x hx).not_failed f)
    · obtain rfl := List.mem_singleton.1 hx
      rw [herror, hbroker f hfailed]

theorem heeds_of_silent (hm : Silent m) (h : Yields m s a s') : Heeds broker m s := by
  refine .done a s' h ?_
  rw [hm s]
  exact List.forall_mem_nil _

theorem heeds_pure (a : α) : Heeds broker (pure a : Session σ α) s :=
  heeds_of_silent (silent_pure a) (yields_pure_iff.2 ⟨rfl, rfl⟩)

theorem Heeds.bind (h : Heeds broker m s) (hm : Recorded broker m s)
    (hf : ∀ a s', Yields m s a s' → Heeds broker (f a) s') : Heeds broker (m >>= f) s := by
  cases h with
  | done a s' hyields husable =>
    have hheard := exchanges_bind_of_yields (f := f) hm hyields
    cases hf a s' hyields with
    | done b s'' hb hrest =>
      refine .done b s'' (yields_bind_iff.2 ⟨a, s', hyields, hb⟩) ?_
      rw [hheard]
      exact List.forall_mem_append.2 ⟨husable, hrest⟩
    | halted before x hrest hbefore hunusable e herror hfailed hkind =>
      refine .halted (broker.exchanges s (m.run s).calls ++ before) x ?_
        (List.forall_mem_append.2 ⟨husable, hbefore⟩) hunusable e ?_ hfailed hkind
      · rw [hheard, hrest, List.append_assoc]
      · rw [result_bind_of_yields hyields, herror]
  | halted before x hheard hbefore hunusable e herror hfailed hkind =>
    have hrun := run_bind_of_error (f := f) herror
    refine .halted before x ?_ hbefore hunusable e ?_ hfailed hkind
    · rw [hrun]
      exact hheard
    · rw [hrun]

theorem heeds_emit_bind {event : Event} {f : Unit → Session σ β} (hf : Heeds broker (f ()) s) :
    Heeds broker (emit event >>= f) s := by
  have hemit : Heeds broker (emit event : Session σ Unit) s :=
    heeds_of_silent (silent_emit event) ((yields_emit_iff (u := ())).2 rfl)
  refine hemit.bind (recorded_emit event) fun u s' hyields => ?_
  obtain rfl := yields_emit_iff.1 hyields
  exact hf

/-- A call whose answer is checked heeds the broker if the check passes what `fits` and nothing
else. -/
theorem heeds_call_bind {c : Call} {ask : σ → Reply σ α} {check : α → Session σ Unit}
    {fits : α → Prop} (hcall : Recorded broker (call c ask) s)
    (husable : (broker.exchange s c).Usable ↔ ∃ a, (ask s).answer = .ok a ∧ fits a)
    (hfailed : ∀ f, (broker.exchange s c).Failed f ↔ (ask s).answer = .error f)
    (hcheck : ∀ a, fits a ∧ check a = pure () ∨
      ¬ fits a ∧ ∃ e, check a = fail e ∧ e.failure.kind = .brokerUnavailable)
    (hf : ∀ a, (ask s).answer = .ok a → fits a → Heeds broker (f a) (ask s).state) :
    Heeds broker (call c ask >>= fun a => check a >>= fun _ => f a) s := by
  -- The exchange of this call comes first, and it decides whether the rest is reached.
  cases hanswer : (ask s).answer with
  | error failure =>
    have herror : ((call c ask).run s).result = .error (.broker failure) := by
      rw [run_call, hanswer]
      rfl
    have hunusable : ¬ (broker.exchange s c).Usable := by
      rw [husable, hanswer]
      rintro ⟨a, ⟨⟩, -⟩
    have hrun := run_bind_of_error (f := fun a => check a >>= fun _ => f a) herror
    have hfails := (hfailed failure).2 hanswer
    refine .halted [] (broker.exchange s c) ?_ (List.forall_mem_nil _) hunusable
      (.broker failure) ?_ (fun f' hfails' => ?_) fun hnone => absurd hfails (hnone failure)
    · rw [hrun]
      rfl
    · rw [hrun]
    · rw [hfailed, hanswer] at hfails'
      cases hfails'
      rfl
  | ok a =>
    have hyields : Yields (call c ask) s a (ask s).state := yields_call_iff.2 ⟨hanswer, rfl⟩
    rcases hcheck a with ⟨hfits, hpass⟩ | ⟨hmisfit, e, hfail, hkind⟩
    · have hdone : Heeds broker (call c ask) s := by
        refine .done a _ hyields fun x hx => ?_
        obtain rfl := List.mem_singleton.1 hx
        exact husable.2 ⟨a, hanswer, hfits⟩
      refine hdone.bind hcall fun a' s' hyields' => ?_
      obtain ⟨rfl, rfl⟩ := hyields.unique hyields'
      rw [hpass, pure_bind]
      exact hf a hanswer hfits
    · have hunusable : ¬ (broker.exchange s c).Usable := by
        rw [husable, hanswer]
        rintro ⟨a', ⟨⟩, hfits⟩
        exact hmisfit hfits
      refine .halted [] (broker.exchange s c) ?_ (List.forall_mem_nil _) hunusable e ?_
        (fun f' hfails => ?_) fun _ => hkind
      · rw [exchanges_bind_of_yields hcall hyields, hfail]
        rfl
      · rw [result_bind_of_yields hyields, hfail]
        rfl
      · rw [hfailed, hanswer] at hfails
        cases hfails

end Session

/-! ## The stages -/

theorem requireListed_cases (log : String) (listed : PartitionSet) :
    listed ≠ .empty ∧ requireListed log listed = (pure () : Session σ Unit) ∨
      ¬ listed ≠ .empty ∧ ∃ e, requireListed log listed = (fail e : Session σ Unit) ∧
        e.failure.kind = .brokerUnavailable := by
  rw [requireListed, Ne, ← Table.isEmpty_iff]
  split
  next hempty => exact .inr ⟨not_not.2 hempty, _, rfl, rfl⟩
  next hsome => exact .inl ⟨hsome, rfl⟩

theorem requireComplete_cases (which : OffsetKind) (asked : PartitionSet) (answer : OffsetTable) :
    Complete asked answer ∧ requireComplete which asked answer = (pure () : Session σ Unit) ∨
      ¬ Complete asked answer ∧
        ∃ e, requireComplete which asked answer = (fail e : Session σ Unit) ∧
          e.failure.kind = .brokerUnavailable := by
  rw [requireComplete, ← firstUnreported?_eq_none_iff]
  cases firstUnreported? asked answer with
  | none => exact .inl ⟨rfl, rfl⟩
  | some p => exact .inr ⟨Option.some_ne_none p, _, rfl, rfl⟩

section Stages

variable {broker : Broker σ} {s : σ} {asked : PartitionSet}

theorem heeds_askPartitions_bind {log : String} {f : PartitionSet → Session σ β}
    (hf : ∀ listed, Heeds broker (f listed) (broker.list log s).state) :
    Heeds broker (askPartitions broker log >>= fun listed =>
      requireListed log listed >>= fun _ => f listed) s := by
  exact heeds_call_bind (recorded_askPartitions broker s log) Iff.rfl (fun _ => Iff.rfl)
    (requireListed_cases log) fun listed _ _ => hf listed

theorem heeds_askEarliest_bind (which : OffsetKind) {f : OffsetTable → Session σ β}
    (hf : ∀ answer, Heeds broker (f answer) (broker.earliest asked s).state) :
    Heeds broker (askEarliest broker asked >>= fun answer =>
      requireComplete which asked answer >>= fun _ => f answer) s := by
  exact heeds_call_bind (recorded_askEarliest broker s asked) Iff.rfl (fun _ => Iff.rfl)
    (requireComplete_cases which asked) fun answer _ _ => hf answer

theorem heeds_askLatest_bind (which : OffsetKind) {f : OffsetTable → Session σ β}
    (hf : ∀ answer, Heeds broker (f answer) (broker.latest asked s).state) :
    Heeds broker (askLatest broker asked >>= fun answer =>
      requireComplete which asked answer >>= fun _ => f answer) s := by
  exact heeds_call_bind (recorded_askLatest broker s asked) Iff.rfl (fun _ => Iff.rfl)
    (requireComplete_cases which asked) fun answer _ _ => hf answer

theorem heeds_chooseStarts (settings : PlannerSettings) (checkpoint : Checkpoint)
    (listed : PartitionSet) : Heeds broker (chooseStarts broker settings checkpoint listed) s := by
  rw [chooseStarts]
  split
  · unfold resolveStarts
    rw [bind_assoc]
    apply heeds_emit_bind
    cases settings.reset with
    | earliest => exact heeds_askEarliest_bind _ fun starts => heeds_pure starts
    | latest => exact heeds_askLatest_bind _ fun starts => heeds_pure starts
  · refine heeds_askEarliest_bind _ fun earliest => ?_
    split
    · exact heeds_emit_bind (heeds_pure earliest)
    · exact heeds_pure checkpoint.offsets

theorem heeds_startDiscovered (policy : DiscoveredStart) (listed : PartitionSet)
    (known : OffsetTable) : Heeds broker (startDiscovered broker policy listed known) s := by
  unfold startDiscovered
  generalize undecided known listed = found
  by_cases hempty : found.isEmpty = true
  · rw [if_pos hempty]
    exact heeds_pure known
  · rw [if_neg hempty]
    apply heeds_emit_bind
    cases policy with
    | zero => exact heeds_pure _
    | earliest => exact heeds_askEarliest_bind _ fun earliest => heeds_pure _

/-- A survey ends at the first answer that is not usable. -/
theorem heeds_survey (broker : Broker σ) (s : σ) (log : String) (settings : PlannerSettings)
    (checkpoint : Checkpoint) : Heeds broker (survey broker log settings checkpoint) s := by
  refine heeds_askPartitions_bind fun listed => ?_
  refine (heeds_chooseStarts settings checkpoint listed).bind
    (recorded_chooseStarts broker _ settings checkpoint listed) fun known s₁ _ => ?_
  refine (heeds_startDiscovered settings.discovered listed known).bind
    (recorded_startDiscovered broker s₁ settings.discovered listed known) fun starts s₂ _ => ?_
  have hwarn : Heeds broker (warnDropped log (vanished starts listed)) s₂ :=
    heeds_of_silent (silent_warnDropped log _) ((yields_warnDropped_iff (u := ())).2 rfl)
  refine hwarn.bind (recorded_warnDropped broker s₂ log _) fun _ s₃ _ => ?_
  exact heeds_askLatest_bind _ fun stops => heeds_pure _

end Stages

end LogIntake
