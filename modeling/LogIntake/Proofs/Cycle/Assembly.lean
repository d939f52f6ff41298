import LogIntake.Proofs.Cycle.Dialogue
import LogIntake.Proofs.Cycle.Resumption

/-!
# From a survey to a plan

Behind its survey a cycle makes no calls any more. Whether it comes to a plan is a matter of the
budget, of the two offsets of each partition, and of the name of the log.

## Main definitions

- `Survey.Assemblable`: what a plan needs.

## Main statements

- `exactRanges_of_assemble`: the ranges of an assembled plan.
- `exists_yields_assemble`, `exists_error_of_assemble`: when there is a plan, and how a cycle fails
  otherwise.
-/

namespace LogIntake

open Session

/-! ## The faults that are left out -/

theorem encode_ne_foreignPartition {c : Checkpoint} (h : ∀ p ∈ c.offsets.keys, p.log = c.log)
    (p : Partition) (log : String) : c.encode ≠ .error (.foreignPartition p log) := by
  have hfind : c.offsets.keys.find? (·.log ≠ c.log) = none := by
    rw [List.find?_eq_none]
    intro q hq
    simp [h q hq]
  rw [Checkpoint.encode]
  split
  · rintro ⟨⟩
  · split
    · rintro ⟨⟩
    · rw [hfind]
      rintro ⟨⟩

theorem allocate_ne_noPartitions {starts ends : OffsetTable} (h : ends ≠ .empty)
    (budget : Int64) : allocate starts ends budget ≠ .error .noPartitions := by
  have hends : ¬ ends.isEmpty = true := fun he => h (Table.isEmpty_iff.1 he)
  rw [allocate, if_neg hends]
  split
  · rintro ⟨⟩
  · cases hbegin : Allocation.begin starts ends.entries with
    | ok lots => rintro ⟨⟩
    | error e =>
      intro heq
      by_cases hstarts : ∀ e ∈ ends.entries, starts.startAt e.1 ≤ e.2
      · rw [Allocation.begin_eq_ok hstarts] at hbegin
        cases hbegin
      · obtain ⟨p, start, stop, herror⟩ := Allocation.begin_eq_error hstarts
        rw [hbegin] at herror
        cases herror
        cases heq

theorem mem_keys_ofRanges {log : String} {ranges : List OffsetRange} {p : Partition} :
    p ∈ (Checkpoint.ofRanges log ranges).offsets.keys ↔ p ∈ ranges.map (·.partition) := by
  rw [← Table.contains_iff_mem_keys, Checkpoint.ofRanges, Table.contains_ofList, List.map_map]
  rfl

/-- The checkpoint of ranges has no partitions but those that were found. -/
theorem log_eq_of_mem_keys_ofRanges {log : String} {starts stops : OffsetTable} {budget : Int64}
    {ranges : List OffsetRange} (hexact : ExactRanges starts stops budget ranges)
    (hlog : ∀ p, stops.contains p = true → p.log = log) {p : Partition}
    (hp : p ∈ (Checkpoint.ofRanges log ranges).offsets.keys) : p.log = log := by
  rw [mem_keys_ofRanges, hexact.partitions] at hp
  exact hlog p (Table.contains_iff_mem_keys.2 hp)

/-! ## The plan -/

section Assemble

variable {σ : Type} {log : String} {budget : Int64} {found : Survey} {s s' : σ} {plan : Plan}

/-- The survey has a plan within the budget whose checkpoint can be written. -/
structure Survey.Assemblable (found : Survey) (log : String) (budget : Int64) : Prop where
  allocatable : Allocatable found.starts found.stops budget
  log_ne_empty : log ≠ ""
  comma_not_mem_log : ',' ∉ log.toList

theorem exists_yields_assemble (h : found.Assemblable log budget)
    (hlog : ∀ p, found.stops.contains p = true → p.log = log) (s : σ) :
    ∃ plan, Yields (assemble log budget found) s plan s := by
  obtain ⟨allocation, hallocate, -⟩ := Allocation.allocate_eq_ok h.allocatable
  have hexact := exactRanges_of_allocate hallocate
  have hencode := Checkpoint.encode_eq_ok (c := .ofRanges log allocation.ranges)
    ⟨h.log_ne_empty, h.comma_not_mem_log, fun p => log_eq_of_mem_keys_ofRanges hexact hlog⟩
  exact ⟨⟨allocation.ranges, _⟩,
    yields_assemble_iff.2 ⟨⟨allocation, hallocate, rfl⟩, hencode, rfl⟩⟩

/-- All other surveys break what a plan needs. -/
theorem exists_error_of_assemble (h : ¬ found.Assemblable log budget)
    (hsome : found.stops ≠ .empty) (hlog : ∀ p, found.stops.contains p = true → p.log = log)
    (s : σ) :
    ∃ e, ((assemble log budget found).run s).result = .error e ∧
      e.failure.kind = .invariantViolation ∧ e ≠ .allocation .noPartitions ∧
      ∀ p name, e ≠ .encoding (.foreignPartition p name) := by
  rw [assemble]
  cases hallocate : allocate found.starts found.stops budget with
  | error e =>
    refine ⟨.allocation e, rfl, rfl, ?_, ?_⟩
    · rintro ⟨⟩
      exact allocate_ne_noPartitions hsome budget hallocate
    · rintro p name ⟨⟩
  | ok allocation =>
    have hexact := exactRanges_of_allocate hallocate
    rw [ofExcept_ok, pure_bind, result_bind_of_yields ((yields_emit_iff (u := ())).2 rfl)]
    cases hencode : (Checkpoint.ofRanges log allocation.ranges).encode with
    | error e =>
      refine ⟨.encoding e, rfl, rfl, ?_, ?_⟩
      · rintro ⟨⟩
      · rintro p name ⟨⟩
        have hkeys := fun q => log_eq_of_mem_keys_ofRanges (p := q) hexact hlog
        exact encode_ne_foreignPartition hkeys p _ hencode
    | ok text =>
      -- Both parts went well, so nothing was amiss with the survey.
      have hencodable := Checkpoint.encodable_of_encode hencode
      exact absurd ⟨allocatable_of_allocate hallocate, hencodable.log_ne_empty,
        hencodable.comma_not_mem_log⟩ h

theorem exactRanges_of_assemble (h : Yields (assemble log budget found) s plan s') :
    ExactRanges found.starts found.stops budget plan.ranges := by
  obtain ⟨⟨allocation, hallocate, hranges⟩, -⟩ := yields_assemble_iff.1 h
  rw [hranges]
  exact exactRanges_of_allocate hallocate

end Assemble

end LogIntake
