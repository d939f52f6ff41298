import LogIntake.Event
import LogIntake.Failure
import LogIntake.Partition

/-!
# Brokers

A broker keeps the logs. It can be asked which partitions a log has, and where partitions start
and end. It may change at any time and fail at any call, so it is given by states: a call answers
and leaves a new state, about which nothing is assumed.

## Main definitions

- `Reply`: what a call gives back.
- `Broker`: the three calls, over any type of states.
- `Call`: a call as it is recorded.
-/

namespace LogIntake

/-- What a call to a broker gives back. -/
structure Reply (σ α : Type) where
  answer : Except Failure α
  events : List Event
  state : σ

structure Broker (σ : Type) where
  list : String → σ → Reply σ PartitionSet
  /-- The earliest offset still kept, for each of the partitions asked for. -/
  earliest : PartitionSet → σ → Reply σ OffsetTable
  /-- The offset of the next record to be written, for each of the partitions asked for. -/
  latest : PartitionSet → σ → Reply σ OffsetTable

inductive Call where
  | list (log : String)
  | earliest (asked : PartitionSet)
  | latest (asked : PartitionSet)
  deriving DecidableEq

end LogIntake
