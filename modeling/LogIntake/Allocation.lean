import LogIntake.Failure
import LogIntake.Partition
import LogIntake.Word

/-!
# Allocation of a budget to partitions

Given where reading starts in each partition, where each partition ends and how many records may
be read, `allocate` gives each partition a range. The budget is handed out in passes. In a pass
every partition that is not drained gets an equal share of what was left before the pass, rounded
up and cut to what is still left. What a partition cannot use goes to the others in the next
pass, so that a large partition does not starve the rest.

## Main definitions

- `Allotment`: a partition during the allocation.
- `Allocation.pass`, `Allocation.fill`: one pass, and passes until nothing can be handed out.
- `allocate`: the ranges, or the fault in the inputs.

## Design notes

Offsets are words of 64 bits and stay so here. No step overflows, although the distance from
`start` to `cap` need not fit a word: only differences of at most the budget are formed.
-/

namespace LogIntake

/-- Why nothing can be allocated. -/
inductive AllocationError where
  | negativeBudget (budget : Int64)
  | noPartitions
  | startPastEnd (partition : Partition) (start stop : Int64)
  deriving DecidableEq

namespace AllocationError

def text : AllocationError → String
  | .negativeBudget b => "event budget must not be negative, got " ++ Decimal.render b.toInt
  | .noPartitions => "cannot allocate ranges without any partition to read from"
  | .startPastEnd p start stop =>
    "partition " ++ p.render ++ " starts at " ++ Decimal.render start.toInt ++
      " which is past its end offset " ++ Decimal.render stop.toInt

/-- Inputs without an allocation break what a plan needs. -/
def failure (e : AllocationError) : Failure := ⟨.invariantViolation, e.text⟩

end AllocationError

/-- A partition during the allocation: it is to be read from `start` up to `stop`, which grows
toward `cap`. -/
structure Allotment where
  partition : Partition
  start : Int64
  /-- The offset behind the last record granted so far. -/
  stop : Int64
  cap : Int64
  /-- A grant has reached the end of the partition. -/
  drained : Bool
  deriving DecidableEq

namespace Allotment

/-- Nothing is granted yet. -/
def initial (partition : Partition) (start cap : Int64) : Allotment :=
  ⟨partition, start, start, cap, false⟩

def range (a : Allotment) : OffsetRange := ⟨a.partition, a.start, a.stop⟩

/-- Grants up to `grant` more records, as far as the partition has them. -/
def grow (a : Allotment) (grant : Int64) : Allotment :=
  let stop := min a.cap (Word.saturatingAdd a.stop grant)
  { a with stop, drained := stop = a.cap }

end Allotment

namespace Allocation

def openCount (lots : List Allotment) : Nat := lots.countP (! ·.drained)

/-- One pass: each partition that is not drained is granted `share` records, or what is left of
the budget if that is less. The result is the number of records granted in all passes so far,
and the partitions. -/
def pass (budget share : Int64) : Int64 → List Allotment → Int64 × List Allotment
  | spent, [] => (spent, [])
  | spent, a :: rest =>
    if a.drained then
      let next := pass budget share spent rest
      (next.1, a :: next.2)
    else
      let grown := a.grow (min share (budget - spent))
      let next := pass budget share (spent + (grown.stop - a.stop)) rest
      (next.1, grown :: next.2)

/-- Passes until the budget is spent or all partitions are drained. A pass that drains no
partition has granted every share in full and so spent the budget: it is the last one. -/
def fill (budget spent : Int64) (lots : List Allotment) : Int64 × List Allotment :=
  if spent < budget ∧ 0 < openCount lots then
    let share := Word.ceilDiv (budget - spent) (Word.ofCount (openCount lots))
    let next := pass budget share spent lots
    if openCount next.2 < openCount lots then fill budget next.1 next.2 else next
  else (spent, lots)
termination_by openCount lots

/-- The partitions before the first pass, in ascending order. A partition without a start is read
from offset zero, and none may start behind its end. -/
def begin (starts : OffsetTable) : List (Partition × Int64) →
    Except AllocationError (List Allotment)
  | [] => .ok []
  | (p, stop) :: rest =>
    let start := (starts.get? p).getD 0
    if stop < start then .error (.startPastEnd p start stop)
    else (begin starts rest).map (.initial p start stop :: ·)

end Allocation

structure Allocation where
  /-- One range for each partition with an end offset, in ascending order. -/
  ranges : List OffsetRange
  spent : Int64
  /-- The number of partitions that a grant has drained. -/
  drained : Nat
  deriving DecidableEq

/-- Allocates a budget to the partitions of `ends`. Partitions that only `starts` knows get
nothing. -/
def allocate (starts ends : OffsetTable) (budget : Int64) : Except AllocationError Allocation :=
  if budget < 0 then .error (.negativeBudget budget)
  else if ends.isEmpty then .error .noPartitions
  else
    (Allocation.begin starts ends.entries).map fun lots =>
      let filled := Allocation.fill budget 0 lots
      ⟨filled.2.map Allotment.range, filled.1, filled.2.countP (·.drained)⟩

end LogIntake
