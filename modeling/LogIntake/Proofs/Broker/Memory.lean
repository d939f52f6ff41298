import LogIntake.Broker.Memory
import LogIntake.Proofs.TableWrites

/-!
# What a broker in memory answers

The regular answers of a broker in memory are complete for the partitions that it lists, and have
no other partitions than those asked for.

## Main statements

- `Memory.reported_eq_tabulate`: an answer about listed partitions is complete.
- `Memory.contains_of_reported`: an answer has only partitions asked for.
-/

namespace LogIntake.Memory

theorem contains_listed {m : Memory} {log : String} {p : Partition}
    (h : (m.listed log).contains p = true) :
    p.log = m.log ∧ m.partitions.contains p.index = true := by
  rw [listed] at h
  split at h
  next hlog =>
    obtain ⟨i, hi, hp⟩ := List.mem_map.1 (Table.contains_keySet_ofList.1 h)
    cases hp
    exact ⟨hlog, Table.contains_iff_mem_keys.2 hi⟩
  next => cases h

theorem get?_reported (m : Memory) (which : Int64 × Int64 → Int64) (asked : PartitionSet)
    {p : Partition} (hlog : p.log = m.log) :
    (m.reported which asked).get? p =
      ((m.partitions.get? p.index).map which).filter fun _ => asked.contains p := by
  have hnodup : ((m.partitions.entries.map fun e =>
      ((⟨m.log, e.1⟩ : Partition), which e.2)).map (·.1)).Nodup := by
    rw [List.map_map]
    refine List.pairwise_map.2 (m.partitions.ascending.imp fun {e e'} hlt heq => ?_)
    exact Table.ne_of_compare_lt hlt (congrArg Partition.index heq)
  rw [reported, Table.get?_filter]
  -- Both sides are filtered alike; what is left is the look-up among all partitions.
  congr 1
  ext offset
  rw [Table.get?_ofList_eq_some_iff hnodup, List.mem_map, Option.map_eq_some_iff]
  constructor
  · rintro ⟨e, he, heq⟩
    cases heq
    exact ⟨e.2, Table.get?_eq_some_iff.2 he, rfl⟩
  · rintro ⟨ends, hends, rfl⟩
    exact ⟨(p.index, ends), Table.get?_eq_some_iff.1 hends, by rw [← hlog]⟩

theorem reported_eq_tabulate {m : Memory} {log : String} {asked : PartitionSet}
    (h : ∀ p, asked.contains p = true → (m.listed log).contains p = true)
    (which : Int64 × Int64 → Int64) :
    m.reported which asked =
      .tabulate asked fun p => ((m.partitions.get? p.index).map which).getD 0 := by
  apply Table.ext_get?
  intro p
  by_cases hp : asked.contains p = true
  · obtain ⟨hlog, hindex⟩ := contains_listed (h p hp)
    obtain ⟨ends, hends⟩ := Option.isSome_iff_exists.1 hindex
    rw [get?_reported m which asked hlog, Table.get?_tabulate hp, hends]
    simp [hp]
  · have hnone : (Table.tabulate asked fun p =>
        ((m.partitions.get? p.index).map which).getD 0).get? p = none := by
      rw [Table.get?_eq_none_iff, Table.contains_tabulate]
      exact hp
    rw [hnone, reported, Table.get?_filter]
    simp [hp]

theorem contains_of_reported {m : Memory} {which : Int64 × Int64 → Int64} {asked : PartitionSet}
    {p : Partition} (h : (m.reported which asked).contains p = true) :
    asked.contains p = true := by
  obtain ⟨offset, hoffset⟩ := Option.isSome_iff_exists.1 h
  rw [reported, Table.get?_filter, Option.filter_eq_some_iff] at hoffset
  exact hoffset.2

theorem log_eq_of_contains_listed {m : Memory} {log : String} {p : Partition}
    (h : (m.listed log).contains p = true) : p.log = log := by
  have hlog := (contains_listed h).1
  rw [listed] at h
  split at h
  next hsame => exact hlog.trans hsame.symm
  next => cases h

theorem eq_of_answer {α : Type} {name : String} {down : Bool} {regular answered : α}
    (h : answer name down [] regular = .ok answered) : answered = regular := by
  cases down with
  | true => cases h
  | false =>
    cases h
    rfl

/-- A broker in memory that is down says so. -/
theorem kind_of_answer {α : Type} {name : String} {down : Bool} {regular : α} {f : Failure}
    (h : answer name down [] regular = .error f) : f.kind = .brokerUnavailable := by
  cases down with
  | true =>
    cases h
    rfl
  | false => cases h

end LogIntake.Memory
