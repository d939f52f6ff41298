import LogIntake.Cycle
import LogIntake.Proofs.TableWrites

/-!
# The stages of a cycle

What each stage of a planning cycle yields: the result it has, if any, and the state in which it
leaves the broker. Later proofs use these statements and do not look into the stages again.

## Main definitions

- `Session.Yields`: a session has a result and leaves the broker in some state.
- `Complete`: an answer has an offset for every partition asked for.
- `Stale`: a checkpoint points to a record that is no longer kept.

## Main statements

- `Session.yields_bind_iff`: a session goes on where the one before it ended.
- `yields_validateStarts_iff`, `yields_startDiscovered_iff`: which starts a cycle comes to.
-/

namespace LogIntake

variable {σ α β : Type}

/-! ## Sessions that have a result -/

namespace Session

/-- Run from `s`, the session has the result `a` and leaves the broker in the state `s'`. -/
def Yields (m : Session σ α) (s : σ) (a : α) (s' : σ) : Prop :=
  (m.run s).result = .ok a ∧ (m.run s).state = s'

variable {m : Session σ α} {f : α → Session σ β} {s s' s'' : σ} {a a' : α} {b : β}

theorem pure_bind_eq (a : α) (f : α → Session σ β) : (pure a >>= f) = f a := rfl

theorem Yields.unique (h : Yields m s a s') (h' : Yields m s a' s'') : a = a' ∧ s' = s'' := by
  obtain ⟨hresult, rfl⟩ := h
  obtain ⟨hresult', rfl⟩ := h'
  rw [hresult] at hresult'
  cases hresult'
  exact ⟨rfl, rfl⟩

theorem result_eq_ok_iff : (m.run s).result = .ok a ↔ ∃ s', Yields m s a s' := by
  constructor
  · intro h
    exact ⟨_, h, rfl⟩
  · rintro ⟨s', h, _⟩
    exact h

/-- Behind a session with a result the next one decides. -/
theorem result_bind_of_yields (h : Yields m s a s') :
    ((m >>= f).run s).result = ((f a).run s').result := by
  rw [run_bind_of_ok h.1, h.2]

theorem calls_bind_of_yields (h : Yields m s a s') :
    ((m >>= f).run s).calls = (m.run s).calls ++ ((f a).run s').calls := by
  rw [run_bind_of_ok h.1, h.2]

theorem yields_bind_iff :
    Yields (m >>= f) s b s'' ↔ ∃ a s', Yields m s a s' ∧ Yields (f a) s' b s'' := by
  constructor
  · intro h
    cases hm : (m.run s).result with
    | ok a =>
      refine ⟨a, _, ⟨hm, rfl⟩, ?_⟩
      rw [Yields, run_bind_of_ok hm] at h
      exact h
    | error e =>
      rw [Yields, run_bind_of_error hm] at h
      cases h.1
  · rintro ⟨a, s', hm, hf⟩
    rw [Yields, run_bind_of_ok hm.1, hm.2]
    exact hf

theorem yields_pure_iff : Yields (pure a : Session σ α) s a' s' ↔ a' = a ∧ s' = s := by
  simp [Yields, eq_comm]

theorem not_yields_fail (e : CycleError) : ¬ Yields (fail e : Session σ α) s a s' := by
  simp [Yields]

theorem yields_emit_iff {event : Event} {u : Unit} :
    Yields (emit event : Session σ Unit) s u s' ↔ s' = s := by
  simp [Yields, eq_comm]

theorem yields_call_iff {c : Call} {ask : σ → Reply σ α} :
    Yields (call c ask) s a s' ↔ (ask s).answer = .ok a ∧ s' = (ask s).state := by
  rw [Yields, run_call]
  cases (ask s).answer with
  | ok b =>
    show (Except.ok b : Except CycleError α) = .ok a ∧ (ask s).state = s' ↔ _
    simp [eq_comm]
  | error e =>
    show (Except.error (.broker e) : Except CycleError α) = .ok a ∧ (ask s).state = s' ↔ _
    simp

theorem yields_ofExcept_iff {ε : Type} {cause : ε → CycleError} {x : Except ε α} :
    Yields (ofExcept cause x : Session σ α) s a s' ↔ x = .ok a ∧ s' = s := by
  cases x with
  | ok b => simp [yields_pure_iff, eq_comm]
  | error e => simp [not_yields_fail]

end Session

open Session

/-! ## Checks -/

/-- An answer has an offset for every partition asked for. -/
def Complete (asked : PartitionSet) (answer : OffsetTable) : Prop :=
  ∀ p, asked.contains p = true → answer.contains p = true

theorem firstUnreported?_eq_none_iff {asked : PartitionSet} {answer : OffsetTable} :
    firstUnreported? asked answer = none ↔ Complete asked answer := by
  simp [firstUnreported?, Complete, List.find?_eq_none, Table.contains_iff_mem_keys]

section Checks

variable {s s' : σ} {u : Unit}

theorem yields_requireComplete_iff {which : OffsetKind} {asked : PartitionSet}
    {answer : OffsetTable} :
    Yields (requireComplete which asked answer : Session σ Unit) s u s' ↔
      Complete asked answer ∧ s' = s := by
  rw [← firstUnreported?_eq_none_iff, requireComplete]
  cases firstUnreported? asked answer with
  | none => simp [yields_pure_iff]
  | some p => simp [not_yields_fail]

theorem yields_requireListed_iff {log : String} {listed : PartitionSet} :
    Yields (requireListed log listed : Session σ Unit) s u s' ↔ listed ≠ .empty ∧ s' = s := by
  rw [requireListed, Ne, ← Table.isEmpty_iff]
  by_cases h : listed.isEmpty = true
  · simp [h, not_yields_fail]
  · simp [h, yields_pure_iff]

theorem yields_warnDropped_iff {log : String} {partitions : List Partition} :
    Yields (warnDropped log partitions : Session σ Unit) s u s' ↔ s' = s := by
  rw [warnDropped]
  by_cases h : partitions.isEmpty = true
  · simp [h, yields_pure_iff]
  · simp [h, yields_emit_iff]

end Checks

/-! ## Checkpoints -/

theorem readCheckpoint_eq_ok {log text : String} {c : Checkpoint}
    (h : readCheckpoint log text = .ok c) : Checkpoint.decode text = .ok c := by
  rw [readCheckpoint] at h
  cases hdecode : Checkpoint.decode text with
  | error e =>
    rw [hdecode] at h
    cases h
  | ok c' =>
    simp only [hdecode] at h
    split at h
    · cases h
    · cases h
      rfl

theorem readCheckpoint_of_isEmpty {log text : String} {c : Checkpoint}
    (hdecode : Checkpoint.decode text = .ok c) (hempty : c.isEmpty = true) :
    readCheckpoint log text = .ok c := by
  rw [readCheckpoint, hdecode]
  simp [hempty]

theorem readCheckpoint_of_log_eq {log text : String} {c : Checkpoint}
    (hdecode : Checkpoint.decode text = .ok c) (hlog : c.log = log) :
    readCheckpoint log text = .ok c := by
  rw [readCheckpoint, hdecode]
  exact if_neg fun hother => hother.2 hlog

/-! ## Starts -/

/-- A checkpoint points to a record that is no longer kept. -/
def Stale (checkpoint earliest : OffsetTable) : Prop :=
  ∃ p offset kept, checkpoint.get? p = some offset ∧ earliest.get? p = some kept ∧ offset < kept

theorem firstStale?_eq_none_iff {checkpoint earliest : OffsetTable} :
    firstStale? checkpoint earliest = none ↔ ¬ Stale checkpoint earliest := by
  rw [firstStale?, List.findSome?_eq_none_iff]
  constructor
  · rintro h ⟨p, offset, kept, hoffset, hkept, hlt⟩
    have hnone := h (p, offset) (Table.get?_eq_some_iff.1 hoffset)
    simp [hkept, hlt] at hnone
  · intro h e he
    cases hkept : earliest.get? e.1 with
    | none => rfl
    | some kept =>
      have hle : ¬ e.2 < kept := fun hlt =>
        h ⟨e.1, e.2, kept, Table.get?_eq_some_iff.2 he, hkept, hlt⟩
      simp [hle]

theorem stale_of_firstStale?_eq_some {checkpoint earliest : OffsetTable}
    {found : Partition × Int64 × Int64} (h : firstStale? checkpoint earliest = some found) :
    Stale checkpoint earliest := by
  apply Classical.not_not.1
  intro hfresh
  rw [firstStale?_eq_none_iff.2 hfresh] at h
  cases h

theorem contains_undecided {known : OffsetTable} {listed : PartitionSet} {p : Partition} :
    (undecided known listed).contains p = true ↔
      listed.contains p = true ∧ ¬ known.contains p = true := by
  rw [undecided, Table.contains, Table.get?_filter]
  cases h : listed.get? p <;> simp [Table.contains, h]

section Starts

variable {broker : Broker σ} {s s' : σ} {listed : PartitionSet}

theorem yields_resolveStarts_iff {reset : ResetStrategy} {starts : OffsetTable} :
    Yields (resolveStarts broker reset listed) s starts s' ↔
      match reset with
      | .earliest => (broker.earliest listed s).answer = .ok starts ∧
          s' = (broker.earliest listed s).state
      | .latest => (broker.latest listed s).answer = .ok starts ∧
          s' = (broker.latest listed s).state := by
  cases reset with
  | earliest => simp [resolveStarts, yields_bind_iff, yields_emit_iff, askEarliest, yields_call_iff]
  | latest => simp [resolveStarts, yields_bind_iff, yields_emit_iff, askLatest, yields_call_iff]

/-- A checkpoint is kept as it is, or the earliest offsets take its place. -/
theorem yields_validateStarts_iff {checkpoint known : OffsetTable} :
    Yields (validateStarts broker checkpoint listed) s known s' ↔
      ∃ earliest, (broker.earliest listed s).answer = .ok earliest ∧ Complete listed earliest ∧
        s' = (broker.earliest listed s).state ∧
        (Stale checkpoint earliest ∧ known = earliest ∨
          ¬ Stale checkpoint earliest ∧ known = checkpoint) := by
  rw [validateStarts, askEarliest, yields_bind_iff]
  refine exists_congr fun earliest => ?_
  -- What is left behind the check does not touch the broker any more.
  cases h : firstStale? checkpoint earliest with
  | none =>
    have hfresh := firstStale?_eq_none_iff.1 h
    simp [hfresh, yields_bind_iff, yields_call_iff, yields_requireComplete_iff, yields_pure_iff,
      and_assoc, and_comm]
  | some found =>
    have hstale := stale_of_firstStale?_eq_some h
    simp [hstale, yields_bind_iff, yields_call_iff, yields_requireComplete_iff, yields_emit_iff,
      yields_pure_iff, and_assoc, and_comm]

theorem yields_chooseStarts_iff {settings : PlannerSettings} {checkpoint : Checkpoint}
    {known : OffsetTable} :
    Yields (chooseStarts broker settings checkpoint listed) s known s' ↔
      checkpoint.isEmpty = true ∧ Yields (resolveStarts broker settings.reset listed) s known s' ∧
          Complete listed known ∨
        ¬ checkpoint.isEmpty = true ∧
          Yields (validateStarts broker checkpoint.offsets listed) s known s' := by
  rw [chooseStarts]
  by_cases hempty : checkpoint.isEmpty = true
  · simp only [hempty, not_true_eq_false, true_and, false_and, or_false]
    constructor
    · intro h
      obtain ⟨starts, s₁, hresolve, hrest⟩ := yields_bind_iff.1 h
      obtain ⟨_, s₂, hcheck, hlast⟩ := yields_bind_iff.1 hrest
      obtain ⟨hcomplete, rfl⟩ := yields_requireComplete_iff.1 hcheck
      obtain ⟨rfl, rfl⟩ := yields_pure_iff.1 hlast
      exact ⟨hresolve, hcomplete⟩
    · rintro ⟨hresolve, hcomplete⟩
      refine yields_bind_iff.2 ⟨known, s', hresolve, ?_⟩
      exact yields_bind_iff.2 ⟨(), s', yields_requireComplete_iff.2 ⟨hcomplete, rfl⟩,
        yields_pure_iff.2 ⟨rfl, rfl⟩⟩
  · simp [hempty]

/-- Only partitions without a start are looked after. -/
theorem yields_startDiscovered_iff {policy : DiscoveredStart} {known starts : OffsetTable} :
    Yields (startDiscovered broker policy listed known) s starts s' ↔
      undecided known listed = .empty ∧ starts = known ∧ s' = s ∨
        undecided known listed ≠ .empty ∧
          match policy with
          | .zero => starts = known.extend ((undecided known listed).keys.map (·, 0)) ∧ s' = s
          | .earliest => ∃ earliest,
              (broker.earliest (undecided known listed) s).answer = .ok earliest ∧
                Complete (undecided known listed) earliest ∧
                starts = known.extend earliest.entries ∧
                s' = (broker.earliest (undecided known listed) s).state := by
  unfold startDiscovered
  generalize undecided known listed = found
  by_cases hempty : found.isEmpty = true
  · have hfound := Table.isEmpty_iff.1 hempty
    rw [if_pos hempty]
    simp [hfound, yields_pure_iff]
  · have hfound : found ≠ .empty := fun h => hempty (Table.isEmpty_iff.2 h)
    cases policy with
    | zero => simp [hempty, hfound, yields_bind_iff, yields_emit_iff, yields_pure_iff]
    | earliest =>
      simp only [hempty, hfound, yields_bind_iff, yields_emit_iff, yields_pure_iff, askEarliest,
        yields_call_iff, yields_requireComplete_iff, Bool.false_eq_true, if_false, false_and,
        false_or, ne_eq, not_false_eq_true, true_and]
      constructor
      · rintro ⟨_, _, rfl, earliest, _, ⟨hanswer, rfl⟩, _, _, ⟨hcomplete, rfl⟩, rfl, rfl⟩
        exact ⟨earliest, hanswer, hcomplete, rfl, rfl⟩
      · rintro ⟨earliest, hanswer, hcomplete, rfl, rfl⟩
        exact ⟨(), _, rfl, earliest, _, ⟨hanswer, rfl⟩, (), _, ⟨hcomplete, rfl⟩, rfl, rfl⟩

end Starts

end LogIntake
