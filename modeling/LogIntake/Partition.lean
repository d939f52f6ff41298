import LogIntake.Table
import LogIntake.Text.Decimal

/-!
# Partitions and their offsets

A log is split into partitions, each an ordered sequence of records. A record is addressed by its
offset in its partition, and a range of offsets is a slice to be read.

## Main definitions

- `Partition`: the identity of a partition, ordered by log and then by index.
- `PartitionSet`, `OffsetTable`: sets of partitions, and offsets per partition, in that order.
- `OffsetRange`: the records of a partition from one offset up to, and without, another.
-/

namespace LogIntake

open Std

structure Partition where
  log : String
  index : Int32
  deriving DecidableEq

namespace Partition

/-- Partitions are ordered by the code points of their log's name, and within a log by number. -/
instance : Ord Partition := ⟨compareLex (compareOn log) (compareOn index)⟩

instance : TransOrd Partition :=
  inferInstanceAs (TransCmp (compareLex (compareOn log) (compareOn index)))

theorem compare_eq_then (p q : Partition) :
    compare p q = (compare p.log q.log).then (compare p.index q.index) := rfl

instance : LawfulEqOrd Partition where
  compare_self := by
    intro p
    rw [compare_eq_then, Std.compare_self, Std.compare_self]
    rfl
  eq_of_compare := by
    intro p q h
    rw [compare_eq_then, Ordering.then_eq_eq] at h
    obtain ⟨plog, pindex⟩ := p
    obtain ⟨qlog, qindex⟩ := q
    obtain rfl : plog = qlog := LawfulEqCmp.eq_of_compare h.1
    obtain rfl : pindex = qindex := LawfulEqCmp.eq_of_compare h.2
    rfl

/-- A partition is shown as its log and its number with a hyphen between them. -/
def render (p : Partition) : String := p.log ++ "-" ++ Decimal.render p.index.toInt

/-- Partitions of one log are ordered by their numbers. -/
theorem compare_of_log_eq {p q : Partition} (h : p.log = q.log) :
    compare p q = compare p.index q.index := by
  rw [compare_eq_then, h, Std.compare_self]
  rfl

end Partition

abbrev PartitionSet : Type := KeySet Partition

/-- An offset for each of some partitions, in ascending order of the partitions. -/
abbrev OffsetTable : Type := Table Partition Int64

/-- A table of offsets is shown as its entries between braces. -/
def OffsetTable.render (t : OffsetTable) : String :=
  let entry := fun (e : Partition × Int64) => e.1.render ++ "=" ++ Decimal.render e.2.toInt
  "\x7b" ++ String.intercalate ", " (t.entries.map entry) ++ "\x7d"

/-- The records of a partition with offsets from `start` up to, and without, `stop`. -/
structure OffsetRange where
  partition : Partition
  start : Int64
  stop : Int64
  deriving DecidableEq

namespace OffsetRange

/-- The number of records in a range. It is counted without bounds, as the distance of two
offsets need not fit their type. -/
def count (r : OffsetRange) : Int := r.stop.toInt - r.start.toInt

/-- A range is shown as its partition and its two ends. -/
def render (r : OffsetRange) : String :=
  r.partition.render ++ ":" ++ Decimal.render r.start.toInt ++ "->" ++ Decimal.render r.stop.toInt

def total : List OffsetRange → Int
  | [] => 0
  | r :: rest => r.count + total rest

end OffsetRange

end LogIntake
