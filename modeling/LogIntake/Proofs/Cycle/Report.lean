import LogIntake.Proofs.Cycle.Dialogue
import LogIntake.Proofs.Cycle.Resumption
import LogIntake.Proofs.Cycle.Snapshot

/-!
# What a cycle is told

A cycle that goes through its survey makes three or four calls. The order of these calls, what they
ask for, and where reading starts in each listed partition are given here by what the broker
answers, for brokers that may change between any two calls.

## Main definitions

- `Report`: the answers that a cycle gets.
- `Report.exchanges`: the calls with these answers, in their order.
- `Report.start`: where a cycle starts in a partition.

## Main statements

- `exists_report_of_survey`: a survey makes the calls of a report, and its starts are those of the
  report.
- `Broker.Obliging.keys_of_survey`: it ends with the ends of the listed partitions.
-/

namespace LogIntake

open Session

variable {σ : Type}

namespace DiscoveredStart

/-- Where the policy starts a new partition, given the earliest offsets reported for these. -/
def offset (policy : DiscoveredStart) (reported : OffsetTable) (p : Partition) : Int64 :=
  match policy with
  | .zero => 0
  | .earliest => reported.startAt p

/-- The entries that the policy adds for the partitions found. -/
def entries (policy : DiscoveredStart) (found : PartitionSet) (reported : OffsetTable) :
    List (Partition × Int64) :=
  match policy with
  | .zero => found.keys.map (·, 0)
  | .earliest => reported.entries

/-- New partitions start by the policy, and all others keep their start. -/
theorem startAt_extend_entries {known reported : OffsetTable} {listed : PartitionSet}
    (hreported : ∀ p, reported.contains p = true → (undecided known listed).contains p = true)
    (policy : DiscoveredStart) {p : Partition} (hp : listed.contains p = true) :
    OffsetTable.startAt (known.extend (policy.entries (undecided known listed) reported)) p =
      (known.get? p).getD (policy.offset reported p) := by
  cases policy with
  | zero =>
    have hzero : (Table.tabulate (undecided known listed) fun _ => (0 : Int64)).entries =
        (undecided known listed).keys.map (·, 0) := by
      rw [Table.tabulate, Table.keys, List.map_map]
      rfl
    show OffsetTable.startAt (known.extend ((undecided known listed).keys.map (·, 0))) p = _
    rw [← hzero]
    exact startAt_extend_undecided known listed _ hp
  | earliest =>
    rw [entries, OffsetTable.startAt, Table.get?_extend_entries]
    cases hoffset : known.get? p with
    | none =>
      rw [Option.or_none]
      rfl
    | some offset =>
      have hnone : reported.get? p = none := by
        rw [Table.get?_eq_none_iff]
        intro hcontains
        exact (contains_undecided.1 (hreported p hcontains)).2 (Table.contains_of_get? hoffset)
      rw [hnone]
      rfl

end DiscoveredStart

/-- What a broker answers to a cycle. -/
structure Report where
  listed : PartitionSet
  /-- The offsets of all listed partitions that were asked for first. -/
  opening : OffsetTable
  /-- The earliest offsets of the partitions without a start. -/
  discovered : OffsetTable
  stops : OffsetTable

namespace Report

/-- An offset lies below the one reported first, or there is no offset at all. -/
def restarts (report : Report) (offsets : OffsetTable) : Bool :=
  offsets.isEmpty || offsets.entries.any fun e => (report.opening.get? e.1).any (e.2 < ·)

def known (report : Report) (offsets : OffsetTable) : OffsetTable :=
  if report.restarts offsets then report.opening else offsets

/-- Where a cycle starts in a partition, given the offsets of the checkpoint. -/
def start (report : Report) (settings : PlannerSettings) (offsets : OffsetTable)
    (p : Partition) : Int64 :=
  ((report.known offsets).get? p).getD (settings.discovered.offset report.discovered p)

/-- Without a checkpoint the reset strategy says which end is asked for first. -/
def openingExchange (report : Report) (settings : PlannerSettings) (offsets : OffsetTable) :
    Exchange :=
  if offsets.isEmpty ∧ settings.reset = .latest then .latest report.listed (.ok report.opening)
  else .earliest report.listed (.ok report.opening)

/-- New partitions are asked about only where there are some and the policy needs it. -/
def discovery (report : Report) (settings : PlannerSettings) (offsets : OffsetTable) :
    List Exchange :=
  let found := undecided (report.known offsets) report.listed
  if settings.discovered = .earliest ∧ found ≠ .empty then
    [.earliest found (.ok report.discovered)]
  else []

/-- The calls of a cycle with their answers. The ends are asked for last. -/
def exchanges (report : Report) (log : String) (settings : PlannerSettings)
    (offsets : OffsetTable) : List Exchange :=
  .list log (.ok report.listed) :: report.openingExchange settings offsets ::
    (report.discovery settings offsets ++ [.latest report.listed (.ok report.stops)])

theorem restarts_iff {report : Report} {offsets : OffsetTable} :
    report.restarts offsets = true ↔
      offsets.isEmpty = true ∨ Stale offsets report.opening := by
  rw [restarts, Bool.or_eq_true, List.any_eq_true]
  simp only [Option.any_eq_true, decide_eq_true_eq]
  refine or_congr_right ⟨?_, ?_⟩
  · rintro ⟨e, he, kept, hkept, hlt⟩
    exact ⟨e.1, e.2, kept, Table.get?_eq_some_iff.2 he, hkept, hlt⟩
  · rintro ⟨p, offset, kept, hoffset, hkept, hlt⟩
    exact ⟨(p, offset), Table.get?_eq_some_iff.1 hoffset, kept, hkept, hlt⟩

end Report

/-! ## The calls of each stage -/

theorem silent_requireListed (log : String) (listed : PartitionSet) :
    Silent (requireListed log listed : Session σ Unit) := by
  intro s
  rw [requireListed]
  split <;> rfl

theorem silent_requireComplete (which : OffsetKind) (asked : PartitionSet)
    (answer : OffsetTable) : Silent (requireComplete which asked answer : Session σ Unit) := by
  intro s
  rw [requireComplete]
  split <;> rfl

theorem silent_warnDropped (log : String) (partitions : List Partition) :
    Silent (warnDropped log partitions : Session σ Unit) := by
  intro s
  rw [warnDropped]
  split <;> rfl

section Calls

variable (broker : Broker σ) (s : σ)

theorem calls_resolveStarts (reset : ResetStrategy) (listed : PartitionSet) :
    ((resolveStarts broker reset listed).run s).calls =
      [if reset = .latest then .latest listed else .earliest listed] := by
  unfold resolveStarts
  rw [calls_bind_of_silent_left (silent_emit _) ((yields_emit_iff (u := ())).2 rfl)]
  cases reset with
  | earliest => rfl
  | latest => rfl

/-- Whether there is a checkpoint or not, one call is made for the starts. -/
theorem calls_chooseStarts (settings : PlannerSettings) (checkpoint : Checkpoint)
    (listed : PartitionSet) :
    ((chooseStarts broker settings checkpoint listed).run s).calls =
      [if checkpoint.isEmpty ∧ settings.reset = .latest then .latest listed
        else .earliest listed] := by
  rw [chooseStarts]
  by_cases hempty : checkpoint.isEmpty = true
  · rw [if_pos hempty, calls_bind_of_silent, calls_resolveStarts]
    · simp [hempty]
    · intro starts
      exact (silent_requireComplete _ _ _).bind fun _ => silent_pure _
  · rw [if_neg hempty, validateStarts, calls_bind_of_silent]
    · simp [hempty, askEarliest]
    · intro earliest
      refine (silent_requireComplete _ _ _).bind fun _ => ?_
      split
      · exact (silent_emit _).bind fun _ => silent_pure _
      · exact silent_pure _

theorem calls_startDiscovered (policy : DiscoveredStart) (listed : PartitionSet)
    (known : OffsetTable) :
    ((startDiscovered broker policy listed known).run s).calls =
      if policy = .earliest ∧ undecided known listed ≠ .empty then
        [.earliest (undecided known listed)]
      else [] := by
  unfold startDiscovered
  generalize undecided known listed = found
  by_cases hempty : found.isEmpty = true
  · have hfound := Table.isEmpty_iff.1 hempty
    rw [if_pos hempty]
    simp [hfound]
  · have hfound : found ≠ .empty := fun h => hempty (Table.isEmpty_iff.2 h)
    rw [if_neg hempty,
      calls_bind_of_silent_left (silent_emit _) ((yields_emit_iff (u := ())).2 rfl)]
    cases policy with
    | zero => simp
    | earliest =>
      simp only [true_and, ne_eq, hfound, not_false_eq_true, if_true]
      refine calls_bind_of_silent (fun earliest => ?_) s
      exact (silent_requireComplete _ _ _).bind fun _ => silent_pure _

end Calls

/-! ## What the stages hear -/

section Stages

variable {broker : Broker σ} {s s' : σ} {listed : PartitionSet} {settings : PlannerSettings}
  {checkpoint : Checkpoint} {known starts : OffsetTable}

/-- The first answer is complete, and it takes the place of a checkpoint that is empty or stale. -/
theorem exists_opening_of_chooseStarts
    (h : Yields (chooseStarts broker settings checkpoint listed) s known s') :
    ∃ opening, broker.exchanges s
        ((chooseStarts broker settings checkpoint listed).run s).calls =
          [if checkpoint.isEmpty ∧ settings.reset = .latest then .latest listed (.ok opening)
            else .earliest listed (.ok opening)] ∧
      Complete listed opening ∧
      ((checkpoint.isEmpty = true ∨ Stale checkpoint.offsets opening) ∧ known = opening ∨
        ¬ (checkpoint.isEmpty = true ∨ Stale checkpoint.offsets opening) ∧
          known = checkpoint.offsets) := by
  rw [calls_chooseStarts]
  rcases yields_chooseStarts_iff.1 h with ⟨hempty, hresolve, hcomplete⟩ | ⟨hsome, hvalidate⟩
  · refine ⟨known, ?_, hcomplete, .inl ⟨.inl hempty, rfl⟩⟩
    rw [yields_resolveStarts_iff] at hresolve
    cases hreset : settings.reset with
    | earliest =>
      simp only [hreset] at hresolve
      simp [Broker.exchanges, Broker.exchange, hresolve.1]
    | latest =>
      simp only [hreset] at hresolve
      simp [Broker.exchanges, Broker.exchange, hresolve.1, hempty]
  · obtain ⟨opening, hanswer, hcomplete, -, hcases⟩ := yields_validateStarts_iff.1 hvalidate
    refine ⟨opening, ?_, hcomplete, ?_⟩
    · simp [Broker.exchanges, Broker.exchange, hanswer, hsome]
    · simpa [hsome] using hcases

theorem exists_discovered_of_startDiscovered {policy : DiscoveredStart}
    (h : Yields (startDiscovered broker policy listed known) s starts s') :
    ∃ discovered, broker.exchanges s
        ((startDiscovered broker policy listed known).run s).calls =
          (if policy = .earliest ∧ undecided known listed ≠ .empty then
            [.earliest (undecided known listed) (.ok discovered)]
          else []) ∧
      starts = known.extend (policy.entries (undecided known listed) discovered) ∧
      ∀ fair, broker.Obliging fair → fair s → ∀ p, discovered.contains p = true →
        (undecided known listed).contains p = true := by
  have hnone : ∀ p, ¬ (Table.empty : OffsetTable).contains p = true :=
    fun _ => Bool.false_ne_true
  rw [calls_startDiscovered]
  rcases yields_startDiscovered_iff.1 h with ⟨hfound, rfl, -⟩ | ⟨hfound, hpolicy⟩
  · -- Nothing is asked, and nothing is added.
    refine ⟨.empty, by simp [hfound, Broker.exchanges], ?_, fun _ _ _ p hp => absurd hp (hnone p)⟩
    rw [hfound]
    cases policy with
    | zero => rfl
    | earliest => rfl
  · cases policy with
    | zero =>
      exact ⟨.empty, by simp [Broker.exchanges], hpolicy.1,
        fun _ _ _ p hp => absurd hp (hnone p)⟩
    | earliest =>
      obtain ⟨discovered, hanswer, -, hstarts, -⟩ := hpolicy
      refine ⟨discovered, ?_, hstarts, fun fair hobliging hs p hp => ?_⟩
      · simp [hfound, Broker.exchanges, Broker.exchange, hanswer]
      · exact (hobliging.earliest _ s hs).2 discovered hanswer p hp

end Stages

/-! ## The whole survey -/

theorem exchanges_survey {broker : Broker σ} {log : String} {settings : PlannerSettings}
    {checkpoint : Checkpoint} {s s₁ s₂ : σ} {listed : PartitionSet}
    {known starts stops : OffsetTable}
    (hlist : (broker.list log s).answer = .ok listed) (hsome : listed ≠ .empty)
    (hchoose : Yields (chooseStarts broker settings checkpoint listed) (broker.list log s).state
      known s₁)
    (hdiscover : Yields (startDiscovered broker settings.discovered listed known) s₁ starts s₂)
    (hlatest : (broker.latest listed s₂).answer = .ok stops) (hcomplete : Complete listed stops) :
    broker.exchanges s ((survey broker log settings checkpoint).run s).calls =
      .list log (.ok listed) ::
        (broker.exchanges (broker.list log s).state
            ((chooseStarts broker settings checkpoint listed).run
              (broker.list log s).state).calls ++
          (broker.exchanges s₁
              ((startDiscovered broker settings.discovered listed known).run s₁).calls ++
            [.latest listed (.ok stops)])) := by
  -- Checks and warnings make no calls, so four stages are left.
  rw [survey, exchanges_bind_of_yields (recorded_askPartitions broker s log)
      (yields_call_iff.2 ⟨hlist, rfl⟩),
    calls_bind_of_silent_left (silent_requireListed log listed)
      ((yields_requireListed_iff (u := ())).2 ⟨hsome, rfl⟩),
    exchanges_bind_of_yields (recorded_chooseStarts broker _ settings checkpoint listed) hchoose,
    exchanges_bind_of_yields (recorded_startDiscovered broker s₁ settings.discovered listed known)
      hdiscover,
    calls_bind_of_silent_left (silent_warnDropped log _)
      ((yields_warnDropped_iff (u := ())).2 rfl),
    exchanges_bind_of_yields (recorded_askLatest broker s₂ listed)
      (yields_call_iff.2 ⟨hlatest, rfl⟩),
    calls_bind_of_silent_left (silent_requireComplete .stop listed stops)
      ((yields_requireComplete_iff (u := ())).2 ⟨hcomplete, rfl⟩)]
  simp [askPartitions, askLatest, Broker.exchanges, Broker.exchange, hlist, hlatest]

/-- A survey makes the calls of a report, and if the broker answers only what it is asked, its
starts are those of the report. -/
theorem exists_report_of_survey {broker : Broker σ} {log : String} {settings : PlannerSettings}
    {checkpoint : Checkpoint} {s s' : σ} {found : Survey}
    (h : Yields (survey broker log settings checkpoint) s found s') :
    ∃ report : Report, report.listed = found.listed ∧ report.stops = found.stops ∧
      broker.exchanges s ((survey broker log settings checkpoint).run s).calls =
        report.exchanges log settings checkpoint.offsets ∧
      ∀ fair, broker.Obliging fair → fair s → ∀ p, found.listed.contains p = true →
        found.starts.startAt p = report.start settings checkpoint.offsets p := by
  obtain ⟨known, s₁, s₂, hlist, hsome, hchoose, hdiscover, hlatest, hcomplete, -⟩ :=
    yields_survey_iff.1 h
  obtain ⟨opening, hopening, -, hknown⟩ := exists_opening_of_chooseStarts hchoose
  obtain ⟨discovered, hdiscovered, hstarts, hasked⟩ :=
    exists_discovered_of_startDiscovered hdiscover
  let report : Report := ⟨found.listed, opening, discovered, found.stops⟩
  -- By its opening answer the report knows whether the checkpoint was given up.
  have hknown' : report.known checkpoint.offsets = known := by
    have hrestarts := @Report.restarts_iff report checkpoint.offsets
    rw [Report.known]
    rcases hknown with ⟨hrestart, rfl⟩ | ⟨hkeep, rfl⟩
    · exact if_pos (hrestarts.2 hrestart)
    · exact if_neg fun hrestart => hkeep (hrestarts.1 hrestart)
  refine ⟨report, rfl, rfl, ?_, ?_⟩
  · rw [exchanges_survey hlist hsome hchoose hdiscover hlatest hcomplete, hopening, hdiscovered,
      Report.exchanges, Report.discovery, hknown']
    rfl
  · intro fair hobliging hs p hp
    have hs₁ := hobliging.fair_of_chooseStarts (hobliging.list log s hs) hchoose
    rw [hstarts, DiscoveredStart.startAt_extend_entries (hasked fair hobliging hs₁) _ hp,
      Report.start, hknown']

/-- The last call of a survey asks for the ends that it comes to. -/
theorem getLast?_exchanges_survey {broker : Broker σ} {log : String} {settings : PlannerSettings}
    {checkpoint : Checkpoint} {s s' : σ} {found : Survey}
    (h : Yields (survey broker log settings checkpoint) s found s') :
    (broker.exchanges s ((survey broker log settings checkpoint).run s).calls).getLast? =
      some (.latest found.listed (.ok found.stops)) := by
  obtain ⟨report, hlisted, hstops, hexchanges, -⟩ := exists_report_of_survey h
  rw [hexchanges, Report.exchanges, hlisted, hstops, ← List.cons_append, ← List.cons_append,
    List.getLast?_concat]

theorem Broker.Obliging.keys_of_survey {broker : Broker σ} {fair : σ → Prop} {log : String}
    {settings : PlannerSettings} {checkpoint : Checkpoint} {s s' : σ} {found : Survey}
    (hobliging : broker.Obliging fair) (hs : fair s)
    (h : Yields (survey broker log settings checkpoint) s found s') :
    found.stops.keys = found.listed.keys ∧ found.stops ≠ .empty := by
  obtain ⟨known, s₁, s₂, -, hsome, hchoose, hdiscover, hlatest, hcomplete, -⟩ :=
    yields_survey_iff.1 h
  have hs₁ := hobliging.fair_of_chooseStarts (hobliging.list log s hs) hchoose
  have hs₂ := hobliging.fair_of_startDiscovered hs₁ hdiscover
  have hkeys := hobliging.keys_of_latest hs₂ hlatest hcomplete
  exact ⟨hkeys, Table.ne_empty_of_keys_eq hkeys hsome⟩

end LogIntake
