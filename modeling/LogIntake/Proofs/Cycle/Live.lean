import LogIntake.Proofs.Cycle.Assembly
import LogIntake.Proofs.Cycle.Report
import LogIntake.Proofs.Cycle.Runs
import LogIntake.Proofs.Cycle.Snapshot

/-!
# Cycles over a broker at work

While a cycle is under way, records are written and old ones are deleted. A cycle therefore asks
for the ends of the partitions last: whatever was an end before, or an earliest offset, is not
behind the end that is found then. So a cycle over a broker that does answer comes to a plan, and
the checkpoint of this plan serves the next cycle in the same way.

## Main definitions

- `Broker.Live`: a broker that answers from what it holds, and whose partitions do not shrink.
- `Snapshot.Bounds`: no start is behind the end of its partition.
- `Broker.ofHistory`: a broker that goes through snapshots call by call.

## Main statements

- `Broker.Live.exists_yields_survey`: no start is behind the end that a cycle finds.
- `Broker.Live.exists_yields_planCycle`: a cycle comes to a plan.
- `Broker.Live.never_fails`: so do all cycles of a run.
-/

namespace LogIntake

open Session

/-! ## Ends that move on -/

namespace Snapshot

/-- No end of a listed partition moves back. -/
def RisesTo (listed : PartitionSet) (before after : Snapshot) : Prop :=
  ∀ p, listed.contains p = true → before.stop p ≤ after.stop p

/-- No offset of a listed partition is behind its end. -/
def Bounds (snapshot : Snapshot) (listed : PartitionSet) (offsets : OffsetTable) : Prop :=
  ∀ p, listed.contains p = true → ∀ offset, offsets.get? p = some offset →
    offset ≤ snapshot.stop p

variable {listed : PartitionSet} {before between after : Snapshot} {offsets : OffsetTable}

theorem RisesTo.refl (listed : PartitionSet) (snapshot : Snapshot) :
    snapshot.RisesTo listed snapshot := fun _ _ => Int64.le_refl _

theorem RisesTo.trans (h : before.RisesTo listed between) (h' : between.RisesTo listed after) :
    before.RisesTo listed after := fun p hp => Int64.le_trans (h p hp) (h' p hp)

/-- An offset that was not behind the end will never be. -/
theorem Bounds.mono (h : before.Bounds listed offsets) (hrises : before.RisesTo listed after) :
    after.Bounds listed offsets := fun p hp offset hoffset =>
  Int64.le_trans (h p hp offset hoffset) (hrises p hp)

theorem bounds_tabulate {snapshot : Snapshot} {f : Partition → Int64}
    (h : ∀ p, listed.contains p = true → f p ≤ snapshot.stop p) :
    snapshot.Bounds listed (.tabulate listed f) := by
  intro p hp offset hoffset
  obtain ⟨-, rfl⟩ := Table.get?_tabulate_eq_some_iff.1 hoffset
  exact h p hp

end Snapshot

variable {σ : Type}

/-- From `s` to `s'` the broker has stayed alive, and no end of a listed partition has moved
back. -/
structure StaysAlive (view : σ → Snapshot) (alive : PartitionSet → σ → Prop)
    (listed : PartitionSet) (s s' : σ) : Prop where
  alive : alive listed s'
  rises : (view s).RisesTo listed (view s')

/-- A broker that holds `view s` in the state `s`. As long as it is `alive` for the partitions that
a cycle has listed, it answers completely, and only about the partitions asked for. Between any two
calls records may be written and deleted, and partitions may appear. -/
structure Broker.Live (broker : Broker σ) (log : String) (view : σ → Snapshot)
    (alive : PartitionSet → σ → Prop) : Prop where
  bounds : ∀ listed s, alive listed s → ∀ p, listed.contains p = true →
    0 ≤ (view s).earliest p ∧ (view s).earliest p ≤ (view s).stop p
  list : ∀ s, alive (view s).listed s →
    (broker.list log s).answer = .ok (view s).listed ∧
      (∀ p, (view s).listed.contains p = true → p.log = log) ∧
      StaysAlive view alive (view s).listed s (broker.list log s).state
  earliest : ∀ listed asked s, alive listed s →
    (∀ p, asked.contains p = true → listed.contains p = true) →
      (broker.earliest asked s).answer = .ok (.tabulate asked (view s).earliest) ∧
        StaysAlive view alive listed s (broker.earliest asked s).state
  latest : ∀ listed asked s, alive listed s →
    (∀ p, asked.contains p = true → listed.contains p = true) →
      (broker.latest asked s).answer = .ok (.tabulate asked (view s).stop) ∧
        StaysAlive view alive listed s (broker.latest asked s).state

namespace StaysAlive

variable {view : σ → Snapshot} {alive : PartitionSet → σ → Prop} {listed : PartitionSet}
  {s s' s'' : σ}

theorem refl (hs : alive listed s) : StaysAlive view alive listed s s :=
  ⟨hs, .refl listed (view s)⟩

theorem trans (h : StaysAlive view alive listed s s') (h' : StaysAlive view alive listed s' s'') :
    StaysAlive view alive listed s s'' := ⟨h'.alive, h.rises.trans h'.rises⟩

end StaysAlive

/-! ## The stages -/

namespace Broker.Live

variable {broker : Broker σ} {log : String} {view : σ → Snapshot}
  {alive : PartitionSet → σ → Prop} {listed : PartitionSet} {s : σ}

theorem exists_yields_chooseStarts (h : broker.Live log view alive) (hs : alive listed s)
    (settings : PlannerSettings) {checkpoint : Checkpoint}
    (hcheckpoint : (view s).Bounds listed checkpoint.offsets) :
    ∃ known s', Yields (chooseStarts broker settings checkpoint listed) s known s' ∧
      StaysAlive view alive listed s s' ∧ (view s').Bounds listed known := by
  -- What can become a start is an earliest offset, an end, or an offset of the checkpoint.
  obtain ⟨hearliest, hstays⟩ := h.earliest listed listed s hs fun _ hp => hp
  obtain ⟨hlatest, hstays'⟩ := h.latest listed listed s hs fun _ hp => hp
  have hkept : (view s).Bounds listed (.tabulate listed (view s).earliest) :=
    Snapshot.bounds_tabulate fun p hp => (h.bounds listed s hs p hp).2
  have hends : (view s).Bounds listed (.tabulate listed (view s).stop) :=
    Snapshot.bounds_tabulate fun p hp => Int64.le_refl _
  by_cases hempty : checkpoint.isEmpty = true
  · cases hreset : settings.reset with
    | earliest =>
      refine ⟨_, _, yields_chooseStarts_iff.2 (.inl ⟨hempty, ?_, complete_tabulate _ _⟩), hstays,
        hkept.mono hstays.rises⟩
      rw [hreset]
      exact yields_resolveStarts_iff.2 ⟨hearliest, rfl⟩
    | latest =>
      refine ⟨_, _, yields_chooseStarts_iff.2 (.inl ⟨hempty, ?_, complete_tabulate _ _⟩), hstays',
        hends.mono hstays'.rises⟩
      rw [hreset]
      exact yields_resolveStarts_iff.2 ⟨hlatest, rfl⟩
  · have hyields : ∀ known, _ → Yields (chooseStarts broker settings checkpoint listed) s known
        (broker.earliest listed s).state := fun known hcases =>
      yields_chooseStarts_iff.2 (.inr ⟨hempty, yields_validateStarts_iff.2
        ⟨_, hearliest, complete_tabulate _ _, rfl, hcases⟩⟩)
    by_cases hstale : Stale checkpoint.offsets (.tabulate listed (view s).earliest)
    · exact ⟨_, _, hyields _ (.inl ⟨hstale, rfl⟩), hstays, hkept.mono hstays.rises⟩
    · exact ⟨_, _, hyields _ (.inr ⟨hstale, rfl⟩), hstays, hcheckpoint.mono hstays.rises⟩

/-- New partitions do not start behind their end either. -/
theorem exists_yields_startDiscovered (h : broker.Live log view alive) (hs : alive listed s)
    (policy : DiscoveredStart) {known : OffsetTable} (hknown : (view s).Bounds listed known) :
    ∃ starts s', Yields (startDiscovered broker policy listed known) s starts s' ∧
      StaysAlive view alive listed s s' ∧
      ∀ p, listed.contains p = true → starts.startAt p ≤ (view s').stop p := by
  have hfound : ∀ p, (undecided known listed).contains p = true → listed.contains p = true :=
    fun p hp => (contains_undecided.1 hp).1
  have hbound : ∀ p, listed.contains p = true → ∀ offset, offset ≤ (view s).stop p →
      (known.get? p).getD offset ≤ (view s).stop p := by
    intro p hp offset hoffset
    cases hget : known.get? p with
    | none => exact hoffset
    | some start => exact hknown p hp start hget
  by_cases hnone : undecided known listed = .empty
  · refine ⟨known, s, yields_startDiscovered_iff.2 (.inl ⟨hnone, rfl, rfl⟩), .refl hs, ?_⟩
    intro p hp
    obtain ⟨hzero, hle⟩ := h.bounds listed s hs p hp
    exact hbound p hp 0 (Int64.le_trans hzero hle)
  · cases policy with
    | zero =>
      refine ⟨_, s, yields_startDiscovered_iff.2 (.inr ⟨hnone, rfl, rfl⟩), .refl hs, ?_⟩
      intro p hp
      obtain ⟨hzero, hle⟩ := h.bounds listed s hs p hp
      have hstart : OffsetTable.startAt
          (known.extend ((undecided known listed).keys.map (·, 0))) p = (known.get? p).getD 0 :=
        @DiscoveredStart.startAt_extend_entries known .empty listed
          (fun _ hp => absurd hp Bool.false_ne_true) .zero p hp
      rw [hstart]
      exact hbound p hp 0 (Int64.le_trans hzero hle)
    | earliest =>
      obtain ⟨hanswer, hstays⟩ := h.earliest listed (undecided known listed) s hs hfound
      refine ⟨_, _, yields_startDiscovered_iff.2
        (.inr ⟨hnone, _, hanswer, complete_tabulate _ _, rfl, rfl⟩), hstays, ?_⟩
      intro p hp
      rw [startAt_extend_undecided known listed _ hp]
      exact Int64.le_trans (hbound p hp _ (h.bounds listed s hs p hp).2) (hstays.rises p hp)

/-- A cycle asks for the ends last, so no start is behind the end that it finds. -/
theorem exists_yields_survey (h : broker.Live log view alive) (hs : alive (view s).listed s)
    (hsome : (view s).listed ≠ .empty) (settings : PlannerSettings) {checkpoint : Checkpoint}
    (hcheckpoint : (view s).Bounds (view s).listed checkpoint.offsets) :
    ∃ found s', Yields (survey broker log settings checkpoint) s found s' ∧
      found.listed = (view s).listed ∧ StaysAlive view alive (view s).listed s s' ∧
      ∃ latest : Snapshot, latest.RisesTo (view s).listed (view s') ∧
        found.stops = .tabulate (view s).listed latest.stop ∧
        ∀ p, (view s).listed.contains p = true → found.starts.startAt p ≤ latest.stop p := by
  obtain ⟨hlist, -, hstays₀⟩ := h.list s hs
  obtain ⟨known, s₁, hchoose, hstays₁, hknown⟩ :=
    h.exists_yields_chooseStarts hstays₀.alive settings (hcheckpoint.mono hstays₀.rises)
  obtain ⟨starts, s₂, hdiscover, hstays₂, hstarts⟩ :=
    h.exists_yields_startDiscovered hstays₁.alive settings.discovered hknown
  obtain ⟨hlatest, hstays₃⟩ := h.latest _ (view s).listed s₂ hstays₂.alive fun _ hp => hp
  refine ⟨⟨(view s).listed, starts, .tabulate (view s).listed (view s₂).stop⟩, _,
    yields_survey_iff.2 ?_, rfl, ((hstays₀.trans hstays₁).trans hstays₂).trans hstays₃, view s₂,
    hstays₃.rises, rfl, hstarts⟩
  exact ⟨known, s₁, s₂, hlist, hsome, hchoose, hdiscover, hlatest, complete_tabulate _ _, rfl⟩

end Broker.Live

/-! ## The plan of a cycle -/

/-- The text is that of a checkpoint from which a cycle can go on: it has no offsets, or it belongs
to the log and no offset is behind the end of its partition. -/
def Snapshot.Fits (snapshot : Snapshot) (log text : String) : Prop :=
  ∃ c, Checkpoint.decode text = .ok c ∧ (c.isEmpty = true ∨ c.log = log) ∧
    snapshot.Bounds snapshot.listed c.offsets

theorem Snapshot.Fits.exists_readCheckpoint {snapshot : Snapshot} {log text : String}
    (h : snapshot.Fits log text) :
    ∃ c, readCheckpoint log text = .ok c ∧ snapshot.Bounds snapshot.listed c.offsets := by
  obtain ⟨c, hdecode, hlog, hbounds⟩ := h
  have hsame : ¬ ((! c.isEmpty) = true ∧ c.log ≠ log) := by
    rintro ⟨hsome, hother⟩
    rcases hlog with hempty | hsame
    · rw [hempty] at hsome
      cases hsome
    · exact hother hsame
  refine ⟨c, ?_, hbounds⟩
  rw [readCheckpoint, hdecode]
  exact if_neg hsame

theorem Snapshot.fits_empty (snapshot : Snapshot) (log : String) : snapshot.Fits log "" :=
  ⟨Checkpoint.absent, rfl, .inl rfl, fun _ _ _ hoffset => nomatch hoffset⟩

/-- What a cycle over a living broker comes to: `stops` are the ends that it finds, and `snapshot`
is what the broker holds when the cycle is over. -/
structure Plan.Grounded (plan : Plan) (log : String) (listed : PartitionSet) (stops : OffsetTable)
    (snapshot : Snapshot) : Prop where
  resumable : plan.Resumable log
  partitions : plan.ranges.map (·.partition) = listed.keys
  within : ∀ r ∈ plan.ranges, r.start ≤ r.stop ∧
    ∃ stop, stops.get? r.partition = some stop ∧ r.stop ≤ stop
  stops_le : ∀ p stop, stops.get? p = some stop → stop ≤ snapshot.stop p

/-- From the checkpoint of the plan another cycle can go on, if the ends have not moved back. -/
theorem Plan.Grounded.fits {plan : Plan} {log : String} {listed : PartitionSet}
    {stops : OffsetTable} {snapshot next : Snapshot} (h : plan.Grounded log listed stops snapshot)
    (hnext : ∀ p, listed.contains p = true → next.listed.contains p = true →
      snapshot.stop p ≤ next.stop p) : next.Fits log plan.checkpoint := by
  refine ⟨_, h.resumable.decode, .inr rfl, fun p hp offset hoffset => ?_⟩
  obtain ⟨r, hr, rfl, rfl⟩ := h.resumable.get?_iff.1 hoffset
  have hlisted : listed.contains r.partition = true := by
    rw [Table.contains_iff_mem_keys, ← h.partitions]
    exact List.mem_map_of_mem hr
  obtain ⟨-, stop, hstop, hle⟩ := h.within r hr
  calc r.stop ≤ stop := hle
    _ ≤ snapshot.stop r.partition := h.stops_le _ _ hstop
    _ ≤ next.stop r.partition := hnext _ hlisted hp

theorem grounded_of_assemble {log : String} {budget : Int64} {found : Survey} {plan : Plan}
    {listed : PartitionSet} {latest after : Snapshot} {s s' : σ} (hsome : listed ≠ .empty)
    (hstops : found.stops = .tabulate listed latest.stop) (hrises : latest.RisesTo listed after)
    (h : Yields (assemble log budget found) s plan s') :
    plan.Grounded log listed found.stops after := by
  have hexact := exactRanges_of_assemble h
  have hkeys : found.stops.keys = listed.keys := by
    rw [hstops, Table.keys_tabulate]
  have hends := Table.ne_empty_of_keys_eq hkeys hsome
  refine ⟨resumable_of_exactRanges hends hexact (yields_assemble_iff.1 h).2.1,
    hexact.partitions.trans hkeys, fun r hr => ?_, fun p stop hp => ?_⟩
  · obtain ⟨stop, hstop, -, hle, hle'⟩ := hexact.bounds r hr
    exact ⟨hle, stop, hstop, hle'⟩
  · rw [hstops] at hp
    obtain ⟨hmem, rfl⟩ := Table.get?_tabulate_eq_some_iff.1 hp
    exact hrises p hmem

namespace Broker.Live

variable {broker : Broker σ} {log : String} {view : σ → Snapshot}
  {alive : PartitionSet → σ → Prop} {s : σ}

/-- A cycle over a living broker comes to a plan, and the last thing that it asks for are the
ends. -/
theorem exists_yields_planCycle (h : broker.Live log view alive) (hs : alive (view s).listed s)
    (hsome : (view s).listed ≠ .empty) (hempty : log ≠ "") (hcomma : ',' ∉ log.toList)
    (settings : PlannerSettings) {previous : String} (hfits : (view s).Fits log previous)
    {budget : Int64} (hbudget : 0 ≤ budget) :
    ∃ plan s' stops, Yields (planCycle broker log settings previous budget) s plan s' ∧
      (broker.exchanges s
        ((planCycle broker log settings previous budget).run s).calls).getLast? =
          some (.latest (view s).listed (.ok stops)) ∧
      plan.Grounded log (view s).listed stops (view s') := by
  obtain ⟨c, hread, hbounds⟩ := hfits.exists_readCheckpoint
  obtain ⟨found, s', hsurvey, hlisted, hstays, latest, hrises, hstops, hstarts⟩ :=
    h.exists_yields_survey hs hsome settings hbounds
  obtain ⟨-, hlog, -⟩ := h.list s hs
  have hassemblable : found.Assemblable log budget := by
    refine ⟨⟨hbudget, ?_, fun p stop hp => ?_⟩, hempty, hcomma⟩
    · rw [hstops]
      exact Table.ne_empty_of_keys_eq (Table.keys_tabulate _ _) hsome
    · rw [hstops] at hp
      obtain ⟨hmem, rfl⟩ := Table.get?_tabulate_eq_some_iff.1 hp
      exact hstarts p hmem
  have hforeign : ∀ p, found.stops.contains p = true → p.log = log := by
    intro p hp
    rw [hstops, Table.contains_tabulate] at hp
    exact hlog p hp
  obtain ⟨plan, hassemble⟩ := exists_yields_assemble hassemblable hforeign s'
  have hgrounded := grounded_of_assemble hsome hstops hrises hassemble
  rw [planCycle_eq_survey, hread, ofExcept_ok, pure_bind]
  refine ⟨plan, s', found.stops, yields_bind_iff.2 ⟨found, s', hsurvey, hassemble⟩, ?_, hgrounded⟩
  rw [calls_bind_of_silent (silent_assemble log budget), getLast?_exchanges_survey hsurvey, hlisted]

end Broker.Live

/-! ## Runs -/

namespace Planner

/-- The budget of the cycle that a request asks for. -/
def budgetOf (planner : Planner) : Request → Int64
  | .plan budget => budget
  | .next limit => planner.budget limit

theorem serve_eq (planner : Planner) (broker : Broker σ) (previous : Option String)
    (request : Request) :
    planner.serve broker previous request =
      planCycle broker planner.log planner.settings (previous.getD "")
        (planner.budgetOf request) := by
  cases request with
  | plan budget => rfl
  | next limit => rfl

end Planner

/-- A turn for whose cycle the broker is alive and has partitions, and whose budget is not
negative. -/
structure Turn.Sound (turn : Turn σ) (planner : Planner) (view : σ → Snapshot)
    (alive : PartitionSet → σ → Prop) : Prop where
  alive : alive (view turn.state).listed turn.state
  listed_ne_empty : (view turn.state).listed ≠ .empty
  budget_nonneg : 0 ≤ planner.budgetOf turn.request

/-- Between two cycles, no end of a partition that both of them list has moved back. -/
def Sustains (view : σ → Snapshot) (a b : Served σ) : Prop :=
  ∀ p, (view a.turn.state).listed.contains p = true →
    (view b.turn.state).listed.contains p = true →
      (view a.outcome.state).stop p ≤ (view b.turn.state).stop p

namespace Broker.Live

variable {broker : Broker σ} {planner : Planner} {view : σ → Snapshot}
  {alive : PartitionSet → σ → Prop}

theorem exists_plan_of_mem_runTurns (h : broker.Live planner.log view alive)
    (hempty : planner.log ≠ "") (hcomma : ',' ∉ planner.log.toList) {turns : List (Turn σ)}
    (hturns : ∀ t ∈ turns, t.Sound planner view alive) {previous : Option String}
    (hfits : ∀ t ∈ turns.head?, (view t.state).Fits planner.log (previous.getD ""))
    (hchain : (planner.runTurns broker previous turns).IsChain (Sustains view)) :
    ∀ served ∈ planner.runTurns broker previous turns,
      ∃ plan, served.outcome.result = .ok plan := by
  -- The induction carries the checkpoint, which fits what the next cycle finds.
  induction turns generalizing previous with
  | nil => exact List.forall_mem_nil _
  | cons turn rest ih =>
    obtain ⟨hturn, hrest⟩ := List.forall_mem_cons.1 hturns
    obtain ⟨plan, s', stops, hyields, -, hgrounded⟩ := h.exists_yields_planCycle hturn.alive
      hturn.listed_ne_empty hempty hcomma planner.settings (hfits turn rfl) hturn.budget_nonneg
    rw [← planner.serve_eq] at hyields
    rw [Planner.runTurns, Planner.carry_of_ok hyields.1] at hchain ⊢
    refine List.forall_mem_cons.2 ⟨⟨plan, hyields.1⟩, ih hrest ?_ hchain.tail⟩
    intro next hnext
    cases rest with
    | nil => cases hnext
    | cons turn' rest =>
      cases hnext
      have hsustains := (List.isChain_cons_cons.1 hchain).1
      rw [Sustains, hyields.2] at hsustains
      exact hgrounded.fits hsustains

end Broker.Live

/-! ## A broker with a history -/

/-- A broker that shows one snapshot for each call. -/
def Broker.ofHistory (history : Nat → Snapshot) : Broker Nat where
  list _ n := ⟨.ok (history n).listed, [], n + 1⟩
  earliest asked n := ⟨.ok (.tabulate asked (history n).earliest), [], n + 1⟩
  latest asked n := ⟨.ok (.tabulate asked (history n).stop), [], n + 1⟩

/-- From a call on, the partitions have records at most between two ends, and the second of these
does not move back. -/
structure Thrives (history : Nat → Snapshot) (listed : PartitionSet) (n : Nat) : Prop where
  bounds : ∀ m, n ≤ m → ∀ p, listed.contains p = true →
    0 ≤ (history m).earliest p ∧ (history m).earliest p ≤ (history m).stop p
  rises : ∀ m, n ≤ m → (history m).RisesTo listed (history (m + 1))

theorem Thrives.staysAlive {history : Nat → Snapshot} {listed : PartitionSet} {n : Nat}
    (h : Thrives history listed n) :
    StaysAlive history (Thrives history) listed n (n + 1) where
  alive := ⟨fun m hm => h.bounds m (Nat.le_of_succ_le hm),
    fun m hm => h.rises m (Nat.le_of_succ_le hm)⟩
  rises := h.rises n (Nat.le_refl n)

/-- Whatever its history, the broker is alive while its partitions thrive. -/
theorem Broker.live_ofHistory {history : Nat → Snapshot} {log : String}
    (hlog : ∀ n p, (history n).listed.contains p = true → p.log = log) :
    (Broker.ofHistory history).Live log history (Thrives history) where
  bounds _ n h := h.bounds n (Nat.le_refl n)
  list n h := ⟨rfl, hlog n, h.staysAlive⟩
  earliest _ _ _ h _ := ⟨rfl, h.staysAlive⟩
  latest _ _ _ h _ := ⟨rfl, h.staysAlive⟩

/-! ## No cycle fails -/

/-- Over a living broker no cycle fails. For a checkpoint without offsets, or one of the log with no
offset behind the end of its partition, a cycle comes to a plan whose ranges do not reach behind the
ends that were asked for last. And as its checkpoint is of this kind again, no cycle of a run that
begins without a checkpoint fails, as long as the ends do not move back between one cycle and the
next. A partition that was gone for a whole cycle may come back with any end. -/
theorem Broker.Live.never_fails {broker : Broker σ} {planner : Planner} {view : σ → Snapshot}
    {alive : PartitionSet → σ → Prop} (h : broker.Live planner.log view alive)
    (hempty : planner.log ≠ "") (hcomma : ',' ∉ planner.log.toList) :
    (∀ s previous budget, alive (view s).listed s → (view s).listed ≠ .empty →
      (view s).Fits planner.log previous → 0 ≤ budget →
        ∃ plan stops,
          ((planCycle broker planner.log planner.settings previous budget).run s).result =
              .ok plan ∧
            (broker.exchanges s ((planCycle broker planner.log planner.settings previous
              budget).run s).calls).getLast? = some (.latest (view s).listed (.ok stops)) ∧
            ∀ r ∈ plan.ranges, r.start ≤ r.stop ∧
              ∃ stop, stops.get? r.partition = some stop ∧ r.stop ≤ stop) ∧
    ∀ turns, (∀ t ∈ turns, Turn.Sound t planner view alive) →
      (planner.runTurns broker none turns).IsChain (Sustains view) →
        ∀ served ∈ planner.runTurns broker none turns,
          ∃ plan, served.outcome.result = .ok plan := by
  constructor
  · intro s previous budget hs hsome hfits hbudget
    obtain ⟨plan, s', stops, hyields, hlast, hgrounded⟩ :=
      h.exists_yields_planCycle hs hsome hempty hcomma planner.settings hfits hbudget
    exact ⟨plan, stops, hyields.1, hlast, hgrounded.within⟩
  · intro turns hturns hchain
    apply h.exists_plan_of_mem_runTurns hempty hcomma hturns ?_ hchain
    intro t _
    exact (view t.state).fits_empty planner.log

/-- Records are deleted and written during the first cycle, and a partition is new in the second. -/
def ordersHistory (n : Nat) : Snapshot where
  listed := if n < 4 then .ofList [⟨"orders", 0⟩] else .ofList [⟨"orders", 0⟩, ⟨"orders", 1⟩]
  earliest _ := if n < 2 then 0 else 6
  stop _ := if n < 3 then 9 else 12

theorem thrives_ordersHistory (listed : PartitionSet) (n : Nat) :
    Thrives ordersHistory listed n := by
  constructor
  · intro m _ p _
    simp only [ordersHistory]
    split <;> split <;> decide
  · intro m _ p _
    simp only [ordersHistory]
    split <;> split <;> first | decide | omega

theorem log_eq_ordersHistory (n : Nat) (p : Partition)
    (hp : (ordersHistory n).listed.contains p = true) : p.log = "orders" := by
  rw [ordersHistory] at hp
  dsimp only at hp
  split at hp
  · rw [Table.contains_keySet_ofList, List.mem_singleton] at hp
    rw [hp]
  · rw [Table.contains_keySet_ofList] at hp
    rcases List.mem_pair.1 hp with rfl | rfl
    · rfl
    · rfl

theorem never_fails_orders :
    let planner : Planner := ⟨"orders", ⟨100, .earliest, .zero⟩⟩
    let broker := Broker.ofHistory ordersHistory
    let turns : List (Turn Nat) := [⟨0, .plan 4⟩, ⟨10, .next 6⟩]
    (planner.runTurns broker none turns).map (·.outcome.result.toOption.map (·.checkpoint)) =
        [some "orders,0:4", some "orders,0:9,1:9"] ∧
      (∀ served ∈ planner.runTurns broker none turns,
        ∃ plan, served.outcome.result = .ok plan) ∧
      ∃ plan, ((planCycle broker planner.log planner.settings "orders,0:4" 0).run 3).result =
        .ok plan := by
  intro planner broker turns
  have hlive : broker.Live planner.log ordersHistory (Thrives ordersHistory) :=
    Broker.live_ofHistory log_eq_ordersHistory
  obtain ⟨hcycle, hruns⟩ := hlive.never_fails (by decide) (by decide)
  refine ⟨by decide +kernel, ?_, ?_⟩
  · refine hruns turns (fun t ht => ?_) (List.isChain_cons_cons.2 ⟨?_, .singleton _⟩)
    · rcases List.mem_pair.1 ht with rfl | rfl
      · exact ⟨thrives_ordersHistory _ _, by decide +kernel, by decide⟩
      · exact ⟨thrives_ordersHistory _ _, by decide +kernel, by decide⟩
    · intro p _ _
      have hstop : ∀ n, (ordersHistory n).stop p ≤ 12 := by
        intro n
        simp only [ordersHistory]
        split <;> decide
      exact hstop _
  · have hfits : (ordersHistory 3).Fits "orders" "orders,0:4" := by
      refine ⟨⟨"orders", .ofList [(⟨"orders", 0⟩, 4)]⟩, by decide +kernel, .inr rfl, ?_⟩
      intro p _ offset hoffset
      rw [Table.get?_ofList_eq_some_iff (by simp), List.mem_singleton] at hoffset
      cases hoffset
      decide
    obtain ⟨plan, -, hplan, -⟩ := hcycle 3 "orders,0:4" 0 (thrives_ordersHistory _ _)
      (by decide +kernel) hfits (by decide)
    exact ⟨plan, hplan⟩

end LogIntake
