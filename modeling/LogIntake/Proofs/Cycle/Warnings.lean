import LogIntake.Proofs.Cycle.Assembly
import LogIntake.Proofs.Cycle.Report
import LogIntake.Proofs.Cycle.Runs

/-!
# Warnings of a cycle

A cycle that does not go on where its checkpoint says logs a warning, and one that goes on
everywhere logs none. There are two causes: records are no longer kept, so that all partitions
start over, or a partition is no longer listed.

## Main definitions

- `Session.Tells`: when a session logs a warning of its own.
- `Plan.Leaves`: a plan does not go on at an offset.

## Main statements

- `exists_tells_survey`: which two warnings there are.
- `Broker.Obliging.planCycle_warns_iff`: a plan that leaves its checkpoint has a warning.
-/

namespace LogIntake

open Session

variable {σ α β : Type}

/-! ## Warnings of sessions -/

namespace Session

/-- Run from `s`, the session itself logs a warning. -/
def Warns (broker : Broker σ) (m : Session σ α) (s : σ) : Prop :=
  ∃ e, (m.run s).Adds broker s e ∧ e.level = .warn

/-- Run from `s`, the session is recorded, and it logs a warning exactly if `warning` holds. -/
structure Tells (broker : Broker σ) (m : Session σ α) (s : σ) (warning : Prop) : Prop
    extends Recorded broker m s where
  warns_iff : Warns broker m s ↔ warning

section Tells

variable {broker : Broker σ} {m : Session σ α} {f : α → Session σ β} {s s' : σ} {a : α}
  {warning warning' : Prop}

/-- A session that logs no more than the broker does logs no warning. -/
theorem tells_of_events_eq (hm : Recorded broker m s)
    (h : (m.run s).events = broker.logged s (m.run s).calls) : Tells broker m s False := by
  refine ⟨hm, iff_false_intro ?_⟩
  rintro ⟨e, hadds, -⟩
  rw [Outcome.Adds, h] at hadds
  exact Nat.lt_irrefl _ hadds

theorem tells_pure (a : α) : Tells broker (pure a : Session σ α) s False :=
  tells_of_events_eq (recorded_pure a) rfl

theorem tells_emit {event : Event} (h : event.level = .warn ↔ warning) :
    Tells broker (emit event : Session σ Unit) s warning := by
  refine ⟨recorded_emit event, ?_⟩
  have hadds : ∀ e, ((emit event : Session σ Unit).run s).Adds broker s e ↔ event = e := by
    intro e
    show 0 < [event].count e ↔ event = e
    rw [List.count_pos_iff, List.mem_singleton, eq_comm]
  rw [← h]
  constructor
  · rintro ⟨e, he, hlevel⟩
    obtain rfl := (hadds e).1 he
    exact hlevel
  · intro hlevel
    exact ⟨event, (hadds event).2 rfl, hlevel⟩

/-- Of two sessions in sequence, one has to warn. -/
theorem Tells.bind (hm : Tells broker m s warning) (h : Yields m s a s')
    (hf : Tells broker (f a) s' warning') : Tells broker (m >>= f) s (warning ∨ warning') := by
  refine ⟨hm.toRecorded.bind fun a' s'' h' => ?_, ?_⟩
  · obtain ⟨rfl, rfl⟩ := h.unique h'
    exact hf.toRecorded
  · rw [← hm.warns_iff, ← hf.warns_iff, Warns, Warns, Warns, ← exists_or]
    refine exists_congr fun e => ?_
    rw [adds_bind_iff hm.toRecorded h hf.toRecorded, or_and_right]

/-- A session that logs no warning can be passed over. -/
theorem Tells.bind_left (hm : Tells broker m s False) (h : Yields m s a s')
    (hf : Tells broker (f a) s' warning) : Tells broker (m >>= f) s warning := by
  have hbind := hm.bind h hf
  rw [false_or] at hbind
  exact hbind

theorem Tells.bind_right (hm : Tells broker m s warning) (h : Yields m s a s')
    (hf : Tells broker (f a) s' False) : Tells broker (m >>= f) s warning := by
  have hbind := hm.bind h hf
  rw [or_false] at hbind
  exact hbind

end Tells

end Session

/-! ## Warnings of the stages -/

section Stages

variable {broker : Broker σ} {s s' : σ} {listed asked : PartitionSet}

theorem tells_askPartitions (log : String) : Tells broker (askPartitions broker log) s False :=
  tells_of_events_eq (recorded_askPartitions broker s log) (List.append_nil _).symm

theorem tells_askEarliest (asked : PartitionSet) :
    Tells broker (askEarliest broker asked) s False :=
  tells_of_events_eq (recorded_askEarliest broker s asked) (List.append_nil _).symm

theorem tells_askLatest (asked : PartitionSet) : Tells broker (askLatest broker asked) s False :=
  tells_of_events_eq (recorded_askLatest broker s asked) (List.append_nil _).symm

theorem tells_requireListed (log : String) (listed : PartitionSet) :
    Tells broker (requireListed log listed) s False := by
  apply tells_of_events_eq (recorded_requireListed broker s log listed)
  rw [requireListed]
  split <;> rfl

theorem tells_requireComplete (which : OffsetKind) (asked : PartitionSet) (answer : OffsetTable) :
    Tells broker (requireComplete which asked answer) s False := by
  apply tells_of_events_eq (recorded_requireComplete broker s which asked answer)
  rw [requireComplete]
  split <;> rfl

theorem tells_warnDropped (log : String) (partitions : List Partition) :
    Tells broker (warnDropped log partitions) s (partitions ≠ []) := by
  cases partitions with
  | nil =>
    rw [eq_false fun h : ([] : List Partition) ≠ [] => h rfl]
    exact tells_pure ()
  | cons p rest => exact tells_emit (iff_of_true rfl (List.cons_ne_nil p rest))

/-- A checkpoint is given up with a warning only. -/
theorem exists_tells_validateStarts {checkpoint known : OffsetTable}
    (h : Yields (validateStarts broker checkpoint listed) s known s') :
    ∃ earliest, (broker.earliest listed s).answer = .ok earliest ∧
      Tells broker (validateStarts broker checkpoint listed) s (Stale checkpoint earliest) ∧
      (Stale checkpoint earliest ∧ known = earliest ∨
        ¬ Stale checkpoint earliest ∧ known = checkpoint) := by
  obtain ⟨earliest, hanswer, hcomplete, -, hcases⟩ := yields_validateStarts_iff.1 h
  refine ⟨earliest, hanswer, ?_, hcases⟩
  rw [validateStarts]
  refine (tells_askEarliest listed).bind_left (yields_call_iff.2 ⟨hanswer, rfl⟩) ?_
  refine (tells_requireComplete _ listed earliest).bind_left
    ((yields_requireComplete_iff (u := ())).2 ⟨hcomplete, rfl⟩) ?_
  -- Behind the check a warning stands for the one stale entry that was found first.
  cases hfirst : firstStale? checkpoint earliest with
  | none =>
    rw [eq_false (firstStale?_eq_none_iff.1 hfirst)]
    exact tells_pure checkpoint
  | some found =>
    have hstale := stale_of_firstStale?_eq_some hfirst
    exact (tells_emit (iff_of_true rfl hstale)).bind_right ((yields_emit_iff (u := ())).2 rfl)
      (tells_pure earliest)

/-- New partitions are no reason for a warning. -/
theorem tells_startDiscovered {policy : DiscoveredStart} {known starts : OffsetTable}
    (h : Yields (startDiscovered broker policy listed known) s starts s') :
    Tells broker (startDiscovered broker policy listed known) s False := by
  have hcases := yields_startDiscovered_iff.1 h
  unfold startDiscovered
  generalize undecided known listed = found at hcases
  by_cases hempty : found.isEmpty = true
  · rw [if_pos hempty]
    exact tells_pure known
  · have hfound : found ≠ .empty := fun h => hempty (Table.isEmpty_iff.2 h)
    have hinfo : ¬ (CycleEvent.discovered found policy).level = .warn := by
      rintro ⟨⟩
    rw [if_neg hempty]
    refine (tells_emit (iff_of_false hinfo id)).bind_left ((yields_emit_iff (u := ())).2 rfl) ?_
    cases policy with
    | zero => exact tells_pure _
    | earliest =>
      rcases hcases with ⟨hnone, -⟩ | ⟨-, earliest, hanswer, hcomplete, -⟩
      · exact absurd hnone hfound
      · refine (tells_askEarliest found).bind_left (yields_call_iff.2 ⟨hanswer, rfl⟩) ?_
        exact (tells_requireComplete _ found earliest).bind_left
          ((yields_requireComplete_iff (u := ())).2 ⟨hcomplete, rfl⟩) (tells_pure _)

end Stages

/-! ## Warnings of a cycle -/

section Cycle

variable {broker : Broker σ} {fair : σ → Prop} {log previous : String}
  {settings : PlannerSettings} {checkpoint : Checkpoint} {budget : Int64} {s s' : σ}

/-- A survey warns about a stale checkpoint and about partitions that are no longer listed, and
about nothing else. -/
theorem exists_tells_survey {found : Survey} (hsome : ¬ checkpoint.isEmpty = true)
    (h : Yields (survey broker log settings checkpoint) s found s') :
    ∃ earliest known s₁ s₂,
      (broker.earliest found.listed (broker.list log s).state).answer = .ok earliest ∧
      Yields (chooseStarts broker settings checkpoint found.listed) (broker.list log s).state
        known s₁ ∧
      Yields (startDiscovered broker settings.discovered found.listed known) s₁ found.starts s₂ ∧
      (Stale checkpoint.offsets earliest ∧ known = earliest ∨
        ¬ Stale checkpoint.offsets earliest ∧ known = checkpoint.offsets) ∧
      Tells broker (survey broker log settings checkpoint) s
        (Stale checkpoint.offsets earliest ∨ vanished found.starts found.listed ≠ []) := by
  obtain ⟨known, s₁, s₂, hlist, hlisted, hchoose, hdiscover, hlatest, hcomplete, -⟩ :=
    yields_survey_iff.1 h
  have hvalidate := hchoose
  rw [chooseStarts, if_neg hsome] at hvalidate
  obtain ⟨earliest, hanswer, htells, hcases⟩ := exists_tells_validateStarts hvalidate
  refine ⟨earliest, known, s₁, s₂, hanswer, hchoose, hdiscover, hcases, ?_⟩
  -- Stage by stage: only the check of the checkpoint and the last look at the listing can warn.
  rw [survey]
  refine (tells_askPartitions log).bind_left (yields_call_iff.2 ⟨hlist, rfl⟩) ?_
  refine (tells_requireListed log _).bind_left
    ((yields_requireListed_iff (u := ())).2 ⟨hlisted, rfl⟩) ?_
  rw [chooseStarts, if_neg hsome]
  refine htells.bind hvalidate ?_
  refine (tells_startDiscovered hdiscover).bind_left hdiscover ?_
  refine (tells_warnDropped log _).bind_right ((yields_warnDropped_iff (u := ())).2 rfl) ?_
  refine (tells_askLatest _).bind_left (yields_call_iff.2 ⟨hlatest, rfl⟩) ?_
  exact (tells_requireComplete _ _ _).bind_left
    ((yields_requireComplete_iff (u := ())).2 ⟨hcomplete, rfl⟩) (tells_pure _)

theorem tells_assemble {found : Survey} {plan : Plan}
    (h : Yields (assemble log budget found) s plan s') :
    Tells broker (assemble log budget found) s False := by
  obtain ⟨⟨allocation, hallocate, hranges⟩, hencode, -⟩ := yields_assemble_iff.1 h
  rw [hranges] at hencode
  have hdebug : ¬ (CycleEvent.allocated allocation budget).level = .warn := by
    rintro ⟨⟩
  have hinfo : ¬ (CycleEvent.planned log ⟨allocation.ranges, plan.checkpoint⟩ budget).level =
      .warn := by
    rintro ⟨⟩
  rw [assemble, hallocate, ofExcept_ok, pure_bind]
  refine (tells_emit (iff_of_false hdebug id)).bind_left ((yields_emit_iff (u := ())).2 rfl) ?_
  rw [hencode, ofExcept_ok, pure_bind]
  exact (tells_emit (iff_of_false hinfo id)).bind_left ((yields_emit_iff (u := ())).2 rfl)
    (tells_pure _)

theorem vanished_ne_nil_iff {starts : OffsetTable} {listed : PartitionSet} :
    vanished starts listed ≠ [] ↔ ∃ p, starts.contains p = true ∧ ¬ listed.contains p = true := by
  simp [vanished, Table.contains_iff_mem_keys]

/-- A plan does not go on at the offset: the partition has no range, or one that starts
elsewhere. -/
def Plan.Leaves (plan : Plan) (p : Partition) (offset : Int64) : Prop :=
  (∀ r ∈ plan.ranges, r.partition ≠ p) ∨ ∃ r ∈ plan.ranges, r.partition = p ∧ r.start ≠ offset

/-- The causes of a warning are those for which a plan leaves the checkpoint. -/
theorem Broker.Obliging.stale_or_vanished_iff (h : broker.Obliging fair) (hs : fair s)
    {policy : DiscoveredStart} {listed : PartitionSet} {offsets earliest known starts : OffsetTable}
    (hdiscover : Yields (startDiscovered broker policy listed known) s starts s')
    (hcases : Stale offsets earliest ∧ known = earliest ∨
      ¬ Stale offsets earliest ∧ known = offsets)
    (hearliest : ∀ p, earliest.contains p = true → listed.contains p = true) {plan : Plan}
    (hpartitions : plan.ranges.map (·.partition) = listed.keys)
    (hstart : ∀ r ∈ plan.ranges, r.start = starts.startAt r.partition) :
    Stale offsets earliest ∨ vanished starts listed ≠ [] ↔
      ∃ p offset, offsets.get? p = some offset ∧ plan.Leaves p offset := by
  have hlisted : ∀ p, listed.contains p = true ↔ ∃ r ∈ plan.ranges, r.partition = p := by
    intro p
    rw [Table.contains_iff_mem_keys, ← hpartitions, List.mem_map]
  have hknown : ∀ r ∈ plan.ranges, ∀ offset, known.get? r.partition = some offset →
      r.start = offset := by
    intro r hr offset hoffset
    rw [hstart r hr, OffsetTable.startAt, h.get?_of_startDiscovered hs hdiscover hoffset]
    rfl
  rw [vanished_ne_nil_iff]
  rcases hcases with ⟨hstale, rfl⟩ | ⟨hkept, rfl⟩
  · -- The stale partition starts over at its earliest offset, which is not that of the checkpoint.
    refine iff_of_true (.inl hstale) ?_
    obtain ⟨p, offset, kept, hoffset, hkept, hlt⟩ := hstale
    obtain ⟨r, hr, rfl⟩ := (hlisted p).1 (hearliest p (Table.contains_of_get? hkept))
    refine ⟨r.partition, offset, hoffset, .inr ⟨r, hr, rfl, ?_⟩⟩
    rw [hknown r hr kept hkept]
    exact Ne.symm (Int64.ne_of_lt hlt)
  · -- The checkpoint is kept, so that only partitions that are not listed are left.
    rw [or_iff_right hkept]
    constructor
    · rintro ⟨p, hp, hgone⟩
      have hsame := h.get?_of_not_undecided hs hdiscover (p := p) fun hfound =>
        hgone (contains_undecided.1 hfound).1
      obtain ⟨offset, hoffset⟩ := Option.isSome_iff_exists.1 hp
      refine ⟨p, offset, hsame.symm.trans hoffset, .inl fun r hr heq => hgone ?_⟩
      exact (hlisted p).2 ⟨r, hr, heq⟩
    · rintro ⟨p, offset, hoffset, hleaves⟩
      refine ⟨p, Table.contains_of_get? (h.get?_of_startDiscovered hs hdiscover hoffset), ?_⟩
      intro hp
      obtain ⟨r, hr, rfl⟩ := (hlisted p).1 hp
      rcases hleaves with hnone | ⟨r', hr', heq, hne⟩
      · exact hnone r hr rfl
      · rw [← heq] at hoffset
        exact hne (hknown r' hr' offset hoffset)

/-- A plan that does not leave an offset has a range that starts there. -/
theorem Plan.exists_range_of_not_leaves {plan : Plan} {p : Partition} {offset : Int64}
    (h : ¬ plan.Leaves p offset) : ∃ r ∈ plan.ranges, r.partition = p ∧ r.start = offset := by
  by_contra hnone
  apply h
  by_cases hrange : ∃ r ∈ plan.ranges, r.partition = p
  · obtain ⟨r, hr, heq⟩ := hrange
    exact .inr ⟨r, hr, heq, fun hstart => hnone ⟨r, hr, heq, hstart⟩⟩
  · exact .inl fun r hr heq => hrange ⟨r, hr, heq⟩

theorem Broker.Obliging.warns_survey_assemble_iff (h : broker.Obliging fair) (hs : fair s)
    (hsome : ¬ checkpoint.isEmpty = true) {plan : Plan}
    (hplan : Yields (survey broker log settings checkpoint >>= assemble log budget) s plan s') :
    Warns broker (survey broker log settings checkpoint >>= assemble log budget) s ↔
      ∃ p offset, checkpoint.offsets.get? p = some offset ∧ plan.Leaves p offset := by
  obtain ⟨found, s₃, hsurvey, hassemble⟩ := yields_bind_iff.1 hplan
  obtain ⟨earliest, known, s₁, s₂, hanswer, hchoose, hdiscover, hcases, htells⟩ :=
    exists_tells_survey hsome hsurvey
  have hexact := exactRanges_of_assemble hassemble
  have hs₀ := h.list log s hs
  have hs₁ := h.fair_of_chooseStarts hs₀ hchoose
  have hearliest := (h.earliest found.listed _ hs₀).2 earliest hanswer
  rw [(htells.bind_right hsurvey (tells_assemble hassemble)).warns_iff]
  refine h.stale_or_vanished_iff hs₁ hdiscover hcases hearliest ?_ fun r hr => ?_
  · rw [hexact.partitions, (h.keys_of_survey hs hsurvey).1]
  · obtain ⟨_, -, hstart, -⟩ := hexact.bounds r hr
    exact hstart

/-- No plan silently leaves the checkpoint. For a checkpoint with offsets, a cycle that comes to a
plan logs a warning exactly if the plan does not go on at one of these offsets. So without a warning
every partition of the checkpoint has a range that starts at its offset, whatever new partitions
there are. -/
theorem Broker.Obliging.planCycle_warns_iff (h : broker.Obliging fair) (hs : fair s)
    (hdecode : Checkpoint.decode previous = .ok checkpoint) (hsome : ¬ checkpoint.isEmpty = true)
    {plan : Plan}
    (hplan : ((planCycle broker log settings previous budget).run s).result = .ok plan) :
    (Warns broker (planCycle broker log settings previous budget) s ↔
      ∃ p offset, checkpoint.offsets.get? p = some offset ∧ plan.Leaves p offset) ∧
    (¬ Warns broker (planCycle broker log settings previous budget) s →
      ∀ p offset, checkpoint.offsets.get? p = some offset →
        ∃ r ∈ plan.ranges, r.partition = p ∧ r.start = offset) := by
  have hwarns : Warns broker (planCycle broker log settings previous budget) s ↔
      ∃ p offset, checkpoint.offsets.get? p = some offset ∧ plan.Leaves p offset := by
    obtain ⟨s', hyields⟩ := result_eq_ok_iff.1 hplan
    rw [planCycle_eq_survey] at hyields ⊢
    cases hread : readCheckpoint log previous with
    | error e =>
      rw [hread] at hyields
      cases hyields.1
    | ok c =>
      have hsame := readCheckpoint_eq_ok hread
      rw [hdecode] at hsame
      cases hsame
      rw [hread, ofExcept_ok, pure_bind] at hyields
      rw [ofExcept_ok, pure_bind]
      exact h.warns_survey_assemble_iff hs hsome hyields
  refine ⟨hwarns, fun hquiet p offset hoffset => ?_⟩
  apply Plan.exists_range_of_not_leaves
  intro hleaves
  exact hquiet (hwarns.2 ⟨p, offset, hoffset, hleaves⟩)

end Cycle

/-- A partition is gone, and its last offset is given up with a warning. -/
theorem planCycle_warns_iff_orders :
    let orders := Memory.ofPartitions "orders" (.ofList [(0, (5, 9)), (1, (0, 30))])
    ((planCycle Memory.broker "orders" .standard "orders,0:7,2:1" 10).run orders).result =
        .ok ⟨[⟨⟨"orders", 0⟩, 7, 9⟩, ⟨⟨"orders", 1⟩, 0, 8⟩], "orders,0:9,1:8"⟩ ∧
      Warns Memory.broker (planCycle Memory.broker "orders" .standard "orders,0:7,2:1" 10)
        orders := by
  intro orders
  have hplan : ((planCycle Memory.broker "orders" .standard "orders,0:7,2:1" 10).run
      orders).result =
        .ok ⟨[⟨⟨"orders", 0⟩, 7, 9⟩, ⟨⟨"orders", 1⟩, 0, 8⟩], "orders,0:9,1:8"⟩ := by
    decide +kernel
  have hdecode : Checkpoint.decode "orders,0:7,2:1" =
      .ok ⟨"orders", .ofList [(⟨"orders", 0⟩, 7), (⟨"orders", 2⟩, 1)]⟩ := by decide +kernel
  obtain ⟨hwarns, -⟩ := Memory.obliging.planCycle_warns_iff (s := orders) ⟨rfl, rfl⟩ hdecode
    (by decide +kernel) hplan
  refine ⟨hplan, hwarns.2 ⟨⟨"orders", 2⟩, 1, by decide +kernel, .inl ?_⟩⟩
  decide +kernel

end LogIntake
