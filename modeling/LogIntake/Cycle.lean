import LogIntake.Cycle.Start
import LogIntake.Plan

/-!
# Planning cycles

A cycle takes the checkpoint that the previous one left, asks the broker where the partitions of
the log start and end, and plans what to read next. Nothing is carried over between cycles but
the checkpoint, which is to be stored only after the planned ranges were read. When a cycle fails,
the previous checkpoint stays the point to start again from.

## Main definitions

- `planCycle`: one cycle with a given budget.
- `Planner`: the log and the settings that cycles have in common.
- `Planner.next`: the cycle after a checkpoint, if there is one, under the limit of the settings.
-/

namespace LogIntake

open Session

variable {σ : Type}

namespace CycleEvent

def dropped (log : String) (partitions : List Partition) : Event where
  origin := .planner
  level := .warn
  message := "Checkpointed partitions are no longer listed, dropping them"
  fields := [("log_name", .text log), ("partitions", .text (indexList partitions))]

def allocated (allocation : Allocation) (budget : Int64) : Event where
  origin := .allocation
  level := .debug
  message := "Allocated offset ranges"
  fields := [
    ("allocated", .integer allocation.spent.toInt),
    ("event_budget", .integer budget.toInt),
    ("partitions", .integer allocation.ranges.length),
    ("exhausted", .integer allocation.drained)]

def planned (log : String) (plan : Plan) (budget : Int64) : Event where
  origin := .planner
  level := .info
  message := "Planned next cycle"
  fields := [
    ("log_name", .text log),
    ("partitions", .integer plan.ranges.length),
    ("event_budget", .integer budget.toInt),
    ("new_messages", .integer plan.total)]

end CycleEvent

/-- The checkpoint of a text, if it can be one of this log. One without offsets may carry any
name. -/
def readCheckpoint (log : String) (text : String) : Except CycleError Checkpoint :=
  match Checkpoint.decode text with
  | .error e => .error (.checkpoint e)
  | .ok c => if ! c.isEmpty ∧ c.log ≠ log then .error (.otherLog c.log log) else .ok c

/-- The starts of partitions that are not listed. -/
def vanished (starts : OffsetTable) (listed : PartitionSet) : List Partition :=
  starts.keys.filter (! listed.contains ·)

/-- The start offsets of the listed partitions, by the checkpoint and by the broker. -/
def chooseStarts (broker : Broker σ) (settings : PlannerSettings) (checkpoint : Checkpoint)
    (listed : PartitionSet) : Session σ OffsetTable := do
  if checkpoint.isEmpty then
    let starts ← resolveStarts broker settings.reset listed
    requireComplete .start listed starts
    return starts
  else
    validateStarts broker checkpoint.offsets listed

/-- Fails if a log has no partitions: it may not be known to the broker yet. -/
def requireListed (log : String) (listed : PartitionSet) : Session σ Unit :=
  if listed.isEmpty then fail (.noPartitions log) else pure ()

/-- Warns about the partitions that are dropped, if there are any. -/
def warnDropped (log : String) (partitions : List Partition) : Session σ Unit :=
  if partitions.isEmpty then pure () else emit (CycleEvent.dropped log partitions)

def planCycle (broker : Broker σ) (log : String) (settings : PlannerSettings)
    (previous : String) (budget : Int64) : Session σ Plan := do
  let checkpoint ← ofExcept id (readCheckpoint log previous)
  let listed ← askPartitions broker log
  requireListed log listed
  let known ← chooseStarts broker settings checkpoint listed
  let starts ← startDiscovered broker settings.discovered listed known
  warnDropped log (vanished starts listed)
  let stops ← askLatest broker listed
  requireComplete .stop listed stops
  let allocation ← ofExcept .allocation (allocate starts stops budget)
  emit (CycleEvent.allocated allocation budget)
  let text ← ofExcept .encoding (Checkpoint.ofRanges log allocation.ranges).encode
  let plan : Plan := ⟨allocation.ranges, text⟩
  emit (CycleEvent.planned log plan budget)
  return plan

/-- What the cycles of one log have in common. -/
structure Planner where
  log : String
  settings : PlannerSettings

namespace Planner

def plan (planner : Planner) (broker : Broker σ) (previous : String) (budget : Int64) :
    Session σ Plan :=
  planCycle broker planner.log planner.settings previous budget

/-- The budget of a cycle: what the source can take, but not more than the settings allow. -/
def budget (planner : Planner) (limit : Int64) : Int64 := min planner.settings.maxEvents limit

/-- Plans the next cycle of a source that takes at most `limit` records. The first cycle has no
previous checkpoint. -/
def next (planner : Planner) (broker : Broker σ) (previous : Option String) (limit : Int64) :
    Session σ Plan :=
  planner.plan broker (previous.getD "") (planner.budget limit)

end Planner

end LogIntake
