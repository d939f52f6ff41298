import LogIntake.Broker

/-!
# A broker in memory

A broker that keeps the two ends of the partitions of one log in a table. Calls can be made to
fail, and an answer can be replaced by a scripted one, so that a planner can be rehearsed against
a broker that is down, incomplete or wrong.

## Main definitions

- `Memory`: the state, that is the table, the calls that are down, and the scripts.
- `Memory.broker`: the broker.
-/

namespace LogIntake

/-- The answers to the next calls of one kind. `none` stands for the regular answer, which is
also given when the script is at its end. -/
abbrev Script (α : Type) : Type := List (Option (Except Failure α))

structure Memory where
  log : String
  /-- The earliest offset and the end of each partition, by the partition's number. -/
  partitions : Table Int32 (Int64 × Int64)
  listDown : Bool
  earliestDown : Bool
  latestDown : Bool
  listScript : Script PartitionSet
  earliestScript : Script OffsetTable
  latestScript : Script OffsetTable

namespace Memory

/-- A log with its partitions, where every call gets its regular answer. -/
def ofPartitions (log : String) (partitions : Table Int32 (Int64 × Int64)) : Memory :=
  ⟨log, partitions, false, false, false, [], [], []⟩

def setPartition (m : Memory) (index : Int32) (earliest stop : Int64) : Memory :=
  { m with partitions := m.partitions.insert index (earliest, stop) }

def dropPartition (m : Memory) (index : Int32) : Memory :=
  { m with partitions := m.partitions.filter fun i _ => i ≠ index }

/-- The partitions of a log, none if it is another one. -/
def listed (m : Memory) (log : String) : PartitionSet :=
  if log = m.log then .ofList (m.partitions.keys.map fun i => ⟨log, i⟩) else .empty

/-- What the table holds about those of some partitions that it knows. -/
def reported (m : Memory) (which : Int64 × Int64 → Int64) (asked : PartitionSet) : OffsetTable :=
  let known := m.partitions.entries.map fun e => ((⟨m.log, e.1⟩ : Partition), which e.2)
  (Table.ofList known).filter fun p _ => asked.contains p

/-- The answer to a call: a failure if calls of its kind are down, else the scripted answer, else
the regular one. -/
def answer {α : Type} (name : String) (down : Bool) (script : Script α) (regular : α) :
    Except Failure α :=
  if down then .error ⟨.brokerUnavailable, name ++ " is down"⟩
  else
    match script with
    | some scripted :: _ => scripted
    | _ => .ok regular

/-- The broker in memory. Each call uses up one answer of the script of its kind. -/
def broker : Broker Memory where
  list log m :=
    ⟨answer "list" m.listDown m.listScript (m.listed log), [],
      { m with listScript := m.listScript.tail }⟩
  earliest asked m :=
    ⟨answer "earliest" m.earliestDown m.earliestScript (m.reported (·.1) asked), [],
      { m with earliestScript := m.earliestScript.tail }⟩
  latest asked m :=
    ⟨answer "end" m.latestDown m.latestScript (m.reported (·.2) asked), [],
      { m with latestScript := m.latestScript.tail }⟩

end Memory

end LogIntake
