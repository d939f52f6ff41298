import LogIntake.Json
import LogIntake.Partition

/-!
# Plans

A plan says what to read in a cycle, and which checkpoint to store once that was done.
-/

namespace LogIntake

/-- What to read in one cycle, and the text of the checkpoint that follows it. -/
structure Plan where
  /-- One range for each partition, in ascending order. -/
  ranges : List OffsetRange
  /-- The checkpoint to store after the ranges were read. -/
  checkpoint : String
  deriving DecidableEq

namespace Plan

def total (plan : Plan) : Int := OffsetRange.total plan.ranges

def isEmpty (plan : Plan) : Bool := plan.total = 0

def rangeJson (r : OffsetRange) : Json :=
  .object [
    ("partition", .object [
      ("log_name", .string r.partition.log),
      ("partition", .integer r.partition.index.toInt)]),
    ("from", .integer r.start.toInt),
    ("until", .integer r.stop.toInt)]

def toJson (plan : Plan) : Json :=
  .object [
    ("ranges", .list (plan.ranges.map rangeJson)),
    ("checkpoint", .string plan.checkpoint)]

end Plan

end LogIntake
