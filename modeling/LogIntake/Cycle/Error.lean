import LogIntake.Allocation
import LogIntake.Checkpoint

/-!
# Errors of a planning cycle

The causes for which a cycle ends without a plan, and how each of them is reported.
-/

namespace LogIntake

/-- The offsets that a broker has to report for every partition asked for. -/
inductive OffsetKind where
  | start
  | earliest
  | stop
  deriving DecidableEq, Repr

def OffsetKind.word : OffsetKind → String
  | .start => "start"
  | .earliest => "earliest"
  | .stop => "end"

/-- Why a cycle has no plan. -/
inductive CycleError where
  | checkpoint (cause : Checkpoint.DecodeError)
  | otherLog (found expected : String)
  | broker (failure : Failure)
  | noPartitions (log : String)
  | unreported (which : OffsetKind) (partition : Partition)
  | allocation (cause : AllocationError)
  | encoding (cause : Checkpoint.EncodeError)
  deriving DecidableEq

/-- The failure to report. A failure of the broker is passed on as it is. -/
def CycleError.failure : CycleError → Failure
  | .checkpoint e => e.failure
  | .otherLog found expected =>
    ⟨.malformedCheckpoint,
      "checkpoint belongs to log '" ++ found ++ "', expected '" ++ expected ++ "'"⟩
  | .broker f => f
  | .noPartitions log => ⟨.brokerUnavailable, "no partitions found for log '" ++ log ++ "'"⟩
  | .unreported which p =>
    ⟨.brokerUnavailable,
      "no " ++ which.word ++ " offset reported for partition " ++ p.render⟩
  | .allocation e => e.failure
  | .encoding e => e.failure

end LogIntake
