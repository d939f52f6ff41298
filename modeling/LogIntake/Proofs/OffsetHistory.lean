import LogIntake.Checkpoint
import LogIntake.Proofs.TableHistory

/-!
# Offsets after a history

Partitions are ordered by the code points of their log's name and then by number. In this order a
table shows of each partition the offset written last, so that nothing else of its history matters:
not to the table, and not to the checkpoint that is made of ranges or its text.

## Main definitions

- `Partition.Precedes`: the order of partitions, by code points and numbers.
- `OffsetTable.Reflects`: a table shows of each partition the last offset in a list of entries.
- `Checkpoint.LastStop`: where the last range of a partition stops.

## Main statements

- `Partition.compare_eq_lt_iff`: partitions are compared by that order.
- `OffsetTable.reflects_after`: a table after a history.
- `Checkpoint.ofRanges_eq_iff`: which ranges lead to the same checkpoint.
- `OffsetTable.last_writes_decide`: all of this, for every history and all ranges.
-/

namespace LogIntake

open Table (Operation LastWritten after written ofList)

/-! ## The order of partitions -/

namespace Partition

def codePoints (s : String) : List Nat := s.toList.map Char.toNat

/-- `p` comes before `q`: the code points of its log's name come first, or the logs are the same and
its number is less. -/
def Precedes (p q : Partition) : Prop :=
  codePoints p.log < codePoints q.log ∨ p.log = q.log ∧ p.index.toInt < q.index.toInt

instance (p q : Partition) : Decidable (Precedes p q) := inferInstanceAs (Decidable (_ ∨ _))

theorem codePoints_lt_iff {s t : String} : codePoints s < codePoints t ↔ s < t := by
  have hmono : ∀ {u v : String}, u < v → codePoints u < codePoints v := fun {u v} h =>
    List.map_lt (fun _ _ => id) (String.lt_iff.1 h)
  refine ⟨fun h => ?_, hmono⟩
  rcases Std.lt_trichotomy s t with hlt | rfl | hgt
  · exact hlt
  · exact absurd h (List.lt_irrefl _)
  · exact absurd h (List.lt_asymm (hmono hgt))

/-- Partitions are compared by the code points of their logs' names, and then by number. -/
theorem compare_eq_lt_iff {p q : Partition} : compare p q = .lt ↔ p.Precedes q := by
  have hlog : compare p.log q.log = .lt ↔ p.log < q.log := compareOfLessAndEq_eq_lt
  rw [compare_eq_then, Ordering.then_eq_lt, hlog, Std.compare_eq_iff_eq, Std.compare_eq_lt,
    ← codePoints_lt_iff, Int32.lt_iff_toInt_lt]
  rfl

/-- Numbers are not compared as texts. -/
example : Precedes ⟨"events", -1⟩ ⟨"events", 0⟩ ∧ Precedes ⟨"events", 2⟩ ⟨"events", 10⟩ := by
  decide

end Partition

/-! ## What a table shows -/

namespace OffsetTable

/-- A table shows of each partition the last offset that `l` has for it, in the order of the
partitions, and answers accordingly. -/
structure Reflects (t : OffsetTable) (l : List (Partition × Int64)) : Prop where
  ascending : t.keys.Pairwise Partition.Precedes
  nodup : t.keys.Nodup
  mem_entries_iff : ∀ p o, (p, o) ∈ t.entries ↔ LastWritten l p o
  get?_eq_some_iff : ∀ p o, t.get? p = some o ↔ (p, o) ∈ t.entries
  contains_iff : ∀ p, t.contains p = true ↔ p ∈ t.keys
  size_eq : t.size = (l.map (·.1)).toFinset.card

theorem reflects_ofList (l : List (Partition × Int64)) : Reflects (ofList l) l where
  ascending := (ofList l).keys_ascending.imp Partition.compare_eq_lt_iff.1
  nodup := (ofList l).keys_nodup
  mem_entries_iff _ _ := Table.mem_entries_ofList_iff
  get?_eq_some_iff _ _ := Table.get?_eq_some_iff
  contains_iff _ := Table.contains_iff_mem_keys
  size_eq := Table.size_ofList l

/-- After a history a table shows the entries written since it was last emptied or replaced. -/
theorem reflects_after (history : List (Operation Partition Int64)) :
    Reflects (after history) (written history) := by
  rw [Table.after_eq_ofList]
  exact reflects_ofList (written history)

/-- Tables are equal exactly if they have the same entries. -/
theorem eq_iff_mem_entries {s t : OffsetTable} : s = t ↔ ∀ e, e ∈ s.entries ↔ e ∈ t.entries := by
  constructor
  · rintro rfl e
    exact Iff.rfl
  · intro h
    apply Table.ext_get?
    intro p
    ext o
    rw [Table.get?_eq_some_iff, Table.get?_eq_some_iff, h]

end OffsetTable

/-! ## Checkpoints of ranges -/

namespace Checkpoint

/-- `LastStop ranges p o`: the last range of the partition `p` stops at `o`. -/
def LastStop (ranges : List OffsetRange) (p : Partition) (o : Int64) : Prop :=
  ∃ before r behind, ranges = before ++ r :: behind ∧ r.partition = p ∧ r.stop = o ∧
    ∀ s ∈ behind, s.partition ≠ p

variable {log : String} {ranges others : List OffsetRange}

theorem lastWritten_stops_iff {p : Partition} {o : Int64} :
    LastWritten (ranges.map fun r => (r.partition, r.stop)) p o ↔ LastStop ranges p o := by
  constructor
  · rintro ⟨before, behind, hmap, hbehind⟩
    obtain ⟨before, rest, rfl, -, hrest⟩ := List.map_eq_append_iff.1 hmap
    obtain ⟨r, behind, rfl, hr, rfl⟩ := List.map_eq_cons_iff.1 hrest
    obtain ⟨hp, ho⟩ := Prod.mk.inj hr
    exact ⟨before, r, behind, rfl, hp, ho, fun s hs => hbehind _ (List.mem_map_of_mem hs)⟩
  · rintro ⟨before, r, behind, rfl, rfl, rfl, hbehind⟩
    exact ⟨_, _, List.map_append, List.forall_mem_map.2 hbehind⟩

/-- Ranges lead to the same checkpoint exactly if the last range of each partition stops at the
same offset. -/
theorem ofRanges_eq_iff :
    ofRanges log others = ofRanges log ranges ↔
      ∀ p o, LastStop others p o ↔ LastStop ranges p o := by
  simp only [← lastWritten_stops_iff]
  rw [← Table.ofList_eq_iff, ofRanges, ofRanges, Checkpoint.mk.injEq, and_iff_right rfl]

theorem ofRanges_eq_of_perm (h : others.Perm ranges)
    (hnodup : (others.map (·.partition)).Nodup) :
    ofRanges log others = ofRanges log ranges := by
  have hkeys : ((others.map fun r => (r.partition, r.stop)).map (·.1)).Nodup := by
    rwa [List.map_map]
  exact congrArg (Checkpoint.mk log) (Table.ofList_eq_of_perm (h.map _) hkeys)

end Checkpoint

namespace OffsetTable

open Checkpoint (LastStop ofRanges)

/-- After every history a table shows the offsets written last since it was emptied, an insertion
gives the offset that it replaces, and tables with the same entries are equal. The checkpoint of
ranges and its text depend on nothing but where the last range of each partition stops. -/
theorem last_writes_decide (history : List (Operation Partition Int64)) :
    Reflects (after history) (written history) ∧
    (∀ earlier, written (earlier ++ .drain :: history) = written history) ∧
    (∀ p o, ((after history).getThenInsert? p o).2 = after (history ++ [.insert p o]) ∧
      ∀ replaced, ((after history).getThenInsert? p o).1 = some replaced ↔
        LastWritten (written history) p replaced) ∧
    (after history).drain = ((after history).entries, .empty) ∧
    (∀ other : List (Operation Partition Int64),
      (after other = after history ↔ ∀ e, e ∈ (after other).entries ↔ e ∈ (after history).entries) ∧
      (after other = after history ↔
        ∀ p o, LastWritten (written other) p o ↔ LastWritten (written history) p o)) ∧
    ∀ log ranges others,
      (ofRanges log others = ofRanges log ranges ↔
        ∀ p o, LastStop others p o ↔ LastStop ranges p o) ∧
      ((∀ p o, LastStop others p o ↔ LastStop ranges p o) →
        (ofRanges log others).encode = (ofRanges log ranges).encode) ∧
      (others.Perm ranges → (others.map (·.partition)).Nodup →
        ofRanges log others = ofRanges log ranges) := by
  refine ⟨reflects_after history, fun earlier => Table.written_append_drain earlier history,
    fun p o => ⟨?_, fun replaced => ?_⟩, rfl, fun other => ⟨eq_iff_mem_entries, ?_⟩,
    fun log ranges others => ⟨Checkpoint.ofRanges_eq_iff, fun h => ?_,
      Checkpoint.ofRanges_eq_of_perm⟩⟩
  · rw [after, after, List.foldl_append]
    rfl
  · rw [Table.getThenInsert?_eq, Table.after_eq_ofList]
    exact Table.get?_ofList_eq_some_iff_lastWritten
  · rw [Table.after_eq_ofList, Table.after_eq_ofList]
    exact Table.ofList_eq_iff
  · rw [Checkpoint.ofRanges_eq_iff.2 h]

/-- One offset is taken out, and another one is written twice. -/
def ordersWrites : List (Operation Partition Int64) :=
  [.insert ⟨"orders", 0⟩ 5, .drain, .extend [(⟨"orders", 10⟩, 1), (⟨"orders", 2⟩, 7)],
    .insert ⟨"orders", 10⟩ 3]

/-- Only the offsets written last are shown, in the order of the numbers, and two ranges lead to one
checkpoint in any order. -/
theorem last_writes_decide_orders :
    (after ordersWrites).entries = [(⟨"orders", 2⟩, 7), (⟨"orders", 10⟩, 3)] ∧
    LastWritten (written ordersWrites) ⟨"orders", 10⟩ 3 ∧
    (ofRanges "orders" [⟨⟨"orders", 10⟩, 1, 3⟩, ⟨⟨"orders", 2⟩, 0, 7⟩]).encode =
      (ofRanges "orders" [⟨⟨"orders", 2⟩, 0, 7⟩, ⟨⟨"orders", 10⟩, 1, 3⟩]).encode := by
  have hentries : (after ordersWrites).entries = [(⟨"orders", 2⟩, 7), (⟨"orders", 10⟩, 3)] := by
    decide +kernel
  obtain ⟨hshown, -, -, -, -, hranges⟩ := last_writes_decide ordersWrites
  refine ⟨hentries, (hshown.mem_entries_iff _ _).1 (by rw [hentries]; decide), ?_⟩
  obtain ⟨hstops, hencode, hperm⟩ := hranges "orders"
    [⟨⟨"orders", 2⟩, 0, 7⟩, ⟨⟨"orders", 10⟩, 1, 3⟩] [⟨⟨"orders", 10⟩, 1, 3⟩, ⟨⟨"orders", 2⟩, 0, 7⟩]
  exact hencode (hstops.1 (hperm (.swap _ _ _) (by decide)))

end OffsetTable

end LogIntake
