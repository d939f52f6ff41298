import LogIntake.Proofs.Broker.Memory
import LogIntake.Proofs.Cycle.Stages

/-!
# Validating a checkpoint

A checkpoint is kept as a whole or given up as a whole. It is given up exactly if in some listed
partition the record to which it points is no longer kept, and then every listed partition starts
over. Either way no start that comes out is too low, so that there is nothing left to do for a
second validation.

## Main definitions

- `Broker.Repeats`: a broker that answers a request for earliest offsets always alike.
- `Behind`: offsets that are too low for a listed partition.

## Main statements

- `Broker.Repeats.exists_yields_of_behind`, `Broker.Repeats.exists_yields_of_not_behind`: what is
  kept and what is given up.
- `Broker.Repeats.validateStarts_all_or_nothing`: all that validating can come to.
-/

namespace LogIntake

open Session

/-- As long as it is in the states `still`, a broker answers the request for the earliest offsets
of some partitions always alike. It may fail or leave out partitions, but it has no answer about
other partitions. -/
structure Broker.Repeats {σ : Type} (broker : Broker σ) (asked : PartitionSet)
    (reported : Except Failure OffsetTable) (still : σ → Prop) : Prop where
  earliest : ∀ s, still s →
    (broker.earliest asked s).answer = reported ∧ still (broker.earliest asked s).state
  asked_only : ∀ earliest, reported = .ok earliest →
    ∀ p, earliest.contains p = true → asked.contains p = true

/-- Some listed partition has an offset below its earliest one. -/
def Behind (listed : PartitionSet) (offsets earliest : OffsetTable) : Prop :=
  ∃ p offset kept, listed.contains p = true ∧ offsets.get? p = some offset ∧
    earliest.get? p = some kept ∧ offset < kept

theorem stale_iff_behind {listed : PartitionSet} {offsets earliest : OffsetTable}
    (h : ∀ p, earliest.contains p = true → listed.contains p = true) :
    Stale offsets earliest ↔ Behind listed offsets earliest := by
  constructor
  · rintro ⟨p, offset, kept, hoffset, hkept, hlt⟩
    exact ⟨p, offset, kept, h p (Table.contains_of_get? hkept), hoffset, hkept, hlt⟩
  · rintro ⟨p, offset, kept, -, hoffset, hkept, hlt⟩
    exact ⟨p, offset, kept, hoffset, hkept, hlt⟩

/-- The earliest offsets are not too low themselves. -/
theorem not_behind_self (listed : PartitionSet) (earliest : OffsetTable) :
    ¬ Behind listed earliest earliest := by
  rintro ⟨p, offset, kept, -, hoffset, hkept, hlt⟩
  rw [hoffset] at hkept
  cases hkept
  exact Int64.lt_irrefl hlt

theorem missing_of_firstUnreported? {asked : PartitionSet} {answer : OffsetTable} {p : Partition}
    (h : firstUnreported? asked answer = some p) :
    asked.contains p = true ∧ ¬ answer.contains p = true := by
  have hmissing := List.find?_some h
  exact ⟨Table.contains_iff_mem_keys.2 (List.mem_of_find?_eq_some h), by simpa using hmissing⟩

namespace Broker.Repeats

variable {σ : Type} {broker : Broker σ} {listed : PartitionSet}
  {reported : Except Failure OffsetTable} {still : σ → Prop} {s : σ} {earliest : OffsetTable}

/-! ## Validations that fail -/

theorem result_of_failed (h : broker.Repeats listed reported still) (hs : still s) {f : Failure}
    (hreported : reported = .error f) (checkpoint : OffsetTable) :
    ((validateStarts broker checkpoint listed).run s).result = .error (.broker f) := by
  have hask : ((askEarliest broker listed).run s).result = .error (.broker f) := by
    rw [askEarliest, run_call, (h.earliest s hs).1, hreported]
    rfl
  rw [validateStarts, run_bind_of_error hask]

/-- A part of an answer is no answer, and the checkpoint is not even looked at. -/
theorem exists_result_of_incomplete (h : broker.Repeats listed reported still) (hs : still s)
    (hreported : reported = .ok earliest) (hpartial : ¬ Complete listed earliest)
    (checkpoint : OffsetTable) :
    ∃ p, listed.contains p = true ∧ ¬ earliest.contains p = true ∧
      ((validateStarts broker checkpoint listed).run s).result =
        .error (.unreported .earliest p) := by
  obtain ⟨p, hp⟩ := Option.ne_none_iff_exists'.1 (mt firstUnreported?_eq_none_iff.1 hpartial)
  obtain ⟨hlisted, hmissing⟩ := missing_of_firstUnreported? hp
  have hask : (broker.earliest listed s).answer = .ok earliest := by
    rw [(h.earliest s hs).1, hreported]
  have hcheck : ((requireComplete .earliest listed earliest : Session σ Unit).run
      (broker.earliest listed s).state).result = .error (.unreported .earliest p) := by
    rw [requireComplete, hp]
    rfl
  refine ⟨p, hlisted, hmissing, ?_⟩
  rw [validateStarts, askEarliest, result_bind_of_yields (yields_call_iff.2 ⟨hask, rfl⟩),
    run_bind_of_error hcheck]

/-! ## Validations that succeed -/

theorem exists_yields_of_behind (h : broker.Repeats listed reported still) (hs : still s)
    (hreported : reported = .ok earliest) (hcomplete : Complete listed earliest)
    {checkpoint : OffsetTable} (hbehind : Behind listed checkpoint earliest) :
    ∃ s', still s' ∧ Yields (validateStarts broker checkpoint listed) s earliest s' := by
  obtain ⟨hask, hstill⟩ := h.earliest s hs
  have hstale := (stale_iff_behind (h.asked_only earliest hreported)).2 hbehind
  exact ⟨_, hstill, yields_validateStarts_iff.2
    ⟨earliest, hask.trans hreported, hcomplete, rfl, .inl ⟨hstale, rfl⟩⟩⟩

theorem exists_yields_of_not_behind (h : broker.Repeats listed reported still) (hs : still s)
    (hreported : reported = .ok earliest) (hcomplete : Complete listed earliest)
    {checkpoint : OffsetTable} (hahead : ¬ Behind listed checkpoint earliest) :
    ∃ s', still s' ∧ Yields (validateStarts broker checkpoint listed) s checkpoint s' := by
  obtain ⟨hask, hstill⟩ := h.earliest s hs
  have hfresh := mt (stale_iff_behind (h.asked_only earliest hreported)).1 hahead
  exact ⟨_, hstill, yields_validateStarts_iff.2
    ⟨earliest, hask.trans hreported, hcomplete, rfl, .inr ⟨hfresh, rfl⟩⟩⟩

/-- What validating comes to while the broker answers alike. A failure of the broker is passed on,
and an answer that leaves out a listed partition makes it unavailable, whatever the checkpoint
says. A complete answer leads to the checkpoint itself, with its entries for partitions that are not
listed, or to the earliest offsets of exactly the listed partitions, the latter if and only if the
checkpoint is too low for one of these. Nothing that comes out is too low, and validating it once
more gives it back. -/
theorem validateStarts_all_or_nothing (h : broker.Repeats listed reported still) (hs : still s)
    (checkpoint : OffsetTable) :
    let validated := (validateStarts broker checkpoint listed).run s
    (∀ f, reported = .error f → validated.result = .error (.broker f)) ∧
      ∀ earliest, reported = .ok earliest →
        (¬ Complete listed earliest →
          ∃ e, validated.result = .error e ∧ e.failure.kind = .brokerUnavailable ∧
            ∃ p, listed.contains p = true ∧ ¬ earliest.contains p = true ∧
              e = .unreported .earliest p) ∧
        (Complete listed earliest →
          ∃ starts, validated.result = .ok starts ∧
            (¬ Behind listed checkpoint earliest ∧ starts = checkpoint ∨
              Behind listed checkpoint earliest ∧ starts = earliest ∧ starts ≠ checkpoint ∧
                starts.keys = listed.keys) ∧
            ¬ Behind listed starts earliest ∧
            ((validateStarts broker starts listed).run validated.state).result = .ok starts) := by
  intro validated
  refine ⟨fun f hreported => h.result_of_failed hs hreported checkpoint, ?_⟩
  intro earliest hreported
  refine ⟨fun hpartial => ?_, fun hcomplete => ?_⟩
  · obtain ⟨p, hlisted, hmissing, hresult⟩ :=
      h.exists_result_of_incomplete hs hreported hpartial checkpoint
    exact ⟨_, hresult, rfl, p, hlisted, hmissing, rfl⟩
  by_cases hbehind : Behind listed checkpoint earliest
  · obtain ⟨s', hs', hresult, hstate⟩ :=
      h.exists_yields_of_behind hs hreported hcomplete hbehind
    have hahead := not_behind_self listed earliest
    obtain ⟨-, -, hagain, -⟩ := h.exists_yields_of_not_behind hs' hreported hcomplete hahead
    have hother : earliest ≠ checkpoint := by
      rintro rfl
      exact hahead hbehind
    have hkeys : earliest.keys = listed.keys :=
      Table.keys_congr fun p => ⟨h.asked_only earliest hreported p, hcomplete p⟩
    refine ⟨earliest, hresult, .inr ⟨hbehind, rfl, hother, hkeys⟩, hahead, ?_⟩
    rw [hstate]
    exact hagain
  · obtain ⟨s', hs', hresult, hstate⟩ :=
      h.exists_yields_of_not_behind hs hreported hcomplete hbehind
    obtain ⟨-, -, hagain, -⟩ := h.exists_yields_of_not_behind hs' hreported hcomplete hbehind
    refine ⟨checkpoint, hresult, .inl ⟨hbehind, rfl⟩, hbehind, ?_⟩
    rw [hstate]
    exact hagain

end Broker.Repeats

/-- A broker in memory without a script answers always alike. -/
theorem Memory.repeats {m : Memory} (h : m.earliestScript = []) (asked : PartitionSet) :
    broker.Repeats asked (answer "earliest" m.earliestDown [] (m.reported (·.1) asked)) (· = m)
    where
  earliest := by
    rintro m rfl
    constructor
    · rw [← h]
      rfl
    · show { m with earliestScript := m.earliestScript.tail } = m
      rw [h, List.tail_nil, ← h]
  asked_only := by
    intro earliest hanswer p hp
    obtain rfl := eq_of_answer hanswer
    exact contains_of_reported hp

/-- The checkpoint has an entry that is too low, one that is not, and one of a partition that is not
listed. -/
theorem validateStarts_all_or_nothing_orders :
    let orders := Memory.ofPartitions "orders" (.ofList [(0, (5, 9)), (1, (0, 30))])
    let listed : PartitionSet := .ofList [⟨"orders", 0⟩, ⟨"orders", 1⟩]
    let checkpoint : OffsetTable :=
      .ofList [(⟨"orders", 0⟩, 4), (⟨"orders", 1⟩, 20), (⟨"orders", 2⟩, 1)]
    let earliest : OffsetTable := .ofList [(⟨"orders", 0⟩, 5), (⟨"orders", 1⟩, 0)]
    let validated := (validateStarts Memory.broker checkpoint listed).run orders
    validated.result = .ok earliest ∧
      ((validateStarts Memory.broker earliest listed).run validated.state).result =
        .ok earliest := by
  intro orders listed checkpoint earliest validated
  have hreported : Memory.answer "earliest" orders.earliestDown []
      (orders.reported (·.1) listed) = .ok earliest :=
    congrArg Except.ok (by decide +kernel)
  have hcomplete : Complete listed earliest :=
    firstUnreported?_eq_none_iff.1 (by decide +kernel)
  have hbehind : Behind listed checkpoint earliest :=
    ⟨⟨"orders", 0⟩, 4, 5, by decide +kernel, by decide +kernel, by decide +kernel, by decide⟩
  have hrepeats := Memory.repeats (m := orders) rfl listed
  obtain ⟨starts, hresult, hcases, -, hagain⟩ :=
    ((hrepeats.validateStarts_all_or_nothing rfl checkpoint).2 earliest hreported).2 hcomplete
  rcases hcases with ⟨hahead, -⟩ | ⟨-, rfl, -⟩
  · exact absurd hbehind hahead
  · exact ⟨hresult, hagain⟩

end LogIntake
