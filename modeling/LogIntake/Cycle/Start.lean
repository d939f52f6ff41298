import LogIntake.Cycle.Session
import LogIntake.Settings

/-!
# Where a cycle starts reading

The start offsets of a cycle come from the checkpoint, or from the broker where there is no
checkpoint, where it has become stale, or where it leaves partitions out.

## Main definitions

- `resolveStarts`: the starts without a checkpoint.
- `validateStarts`: the checkpoint, unless records that it points to are no longer kept.
- `startDiscovered`: starts for the listed partitions that have none.
-/

namespace LogIntake

open Session

variable {σ : Type}

namespace CycleEvent

/-- The numbers of some partitions in brackets. -/
def indexList (partitions : List Partition) : String :=
  "[" ++ String.intercalate ", " (partitions.map fun p => Decimal.render p.index.toInt) ++ "]"

def resolving (strategy : ResetStrategy) (listed : PartitionSet) : Event where
  origin := .reset
  level := .info
  message := "No checkpoint, resolving start offsets"
  fields := [("strategy", .text strategy.word), ("partitions", .integer listed.size)]

/-- The checkpoint points to a record that is no longer kept. -/
def stale (partition : Partition) (offset earliest : Int64) : Event where
  origin := .validation
  level := .warn
  message :=
    "Checkpoint points at data no longer retained, resetting all partitions to earliest"
  fields := [
    ("partition", .text partition.render),
    ("checkpoint_offset", .integer offset.toInt),
    ("earliest_offset", .integer earliest.toInt)]

/-- Listed partitions have no start yet. -/
def discovered (partitions : PartitionSet) (policy : DiscoveredStart) : Event where
  origin := .planner
  level := .info
  message := "Discovered partitions without a checkpoint"
  fields := [("partitions", .text (indexList partitions.keys)), ("policy", .text policy.word)]

end CycleEvent

def askPartitions (broker : Broker σ) (log : String) : Session σ PartitionSet :=
  call (.list log) (broker.list log)

def askEarliest (broker : Broker σ) (asked : PartitionSet) : Session σ OffsetTable :=
  call (.earliest asked) (broker.earliest asked)

def askLatest (broker : Broker σ) (asked : PartitionSet) : Session σ OffsetTable :=
  call (.latest asked) (broker.latest asked)

/-- The first partition asked for that an answer leaves out. -/
def firstUnreported? (asked : PartitionSet) (answer : OffsetTable) : Option Partition :=
  asked.keys.find? (! answer.contains ·)

/-- Fails if an answer leaves out a partition that was asked for, so that no plan is made from a
part of a snapshot. -/
def requireComplete (which : OffsetKind) (asked : PartitionSet) (answer : OffsetTable) :
    Session σ Unit :=
  match firstUnreported? asked answer with
  | some p => fail (.unreported which p)
  | none => pure ()

/-- The start offsets without a checkpoint, as the broker reports them. -/
def resolveStarts (broker : Broker σ) (strategy : ResetStrategy) (listed : PartitionSet) :
    Session σ OffsetTable := do
  emit (CycleEvent.resolving strategy listed)
  match strategy with
  | .earliest => askEarliest broker listed
  | .latest => askLatest broker listed

/-- The first entry of a checkpoint that lies below the earliest offset of its partition, with
both offsets. Partitions without an earliest offset are passed over. -/
def firstStale? (checkpoint earliest : OffsetTable) : Option (Partition × Int64 × Int64) :=
  checkpoint.entries.findSome? fun e =>
    match earliest.get? e.1 with
    | some kept => if e.2 < kept then some (e.1, e.2, kept) else none
    | none => none

/-- The checkpoint itself, as long as all its records are still kept. Otherwise every partition
starts at its earliest offset, so that all partitions stay consistent in time. -/
def validateStarts (broker : Broker σ) (checkpoint : OffsetTable) (listed : PartitionSet) :
    Session σ OffsetTable := do
  let earliest ← askEarliest broker listed
  requireComplete .earliest listed earliest
  match firstStale? checkpoint earliest with
  | some (p, offset, kept) =>
    emit (CycleEvent.stale p offset kept)
    return earliest
  | none => return checkpoint

def undecided (starts : OffsetTable) (listed : PartitionSet) : PartitionSet :=
  listed.filter fun p _ => ! starts.contains p

/-- Gives a start to every listed partition that has none. -/
def startDiscovered (broker : Broker σ) (policy : DiscoveredStart) (listed : PartitionSet)
    (starts : OffsetTable) : Session σ OffsetTable := do
  let found := undecided starts listed
  if found.isEmpty then
    return starts
  else
    emit (CycleEvent.discovered found policy)
    match policy with
    | .zero => return starts.extend (found.keys.map (·, 0))
    | .earliest =>
      let earliest ← askEarliest broker found
      requireComplete .earliest found earliest
      return starts.extend earliest.entries

end LogIntake
