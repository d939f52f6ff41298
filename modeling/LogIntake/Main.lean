import LogIntake.Kafka.Listing
import LogIntake.Program

/-!
# Running the program

The program takes its settings from the environment and the watermarks of the cluster from
standard input, as a listing with one partition on a line. The plan goes to standard output and
the logs go to the standard error stream.
-/

namespace LogIntake

def processEnvironment : IO Environment := do
  let assignments ← IO.FS.readFile "/proc/self/environ"
  return .ofAssignments (assignments.toList.splitOn '\x00')

/-- The lines that are left in a stream. -/
partial def remainingLines (input : IO.FS.Stream) : IO (List String) := do
  let rec go (lines : List String) : IO (List String) := do
    let line ← input.getLine
    if line.isEmpty then return lines.reverse else go (line :: lines)
  go []

def report (logging : Logging) (run : Run) : IO Unit := do
  for event in logging.written run.events do
    IO.eprintln (logging.line event)
  for text in run.errorText?.toList do
    IO.eprintln ("Error: " ++ text)
  IO.print run.output

end LogIntake

open LogIntake in
def main (args : List String) : IO UInt32 := do
  match PlanRequest.ofArguments args with
  | .error e =>
    IO.eprintln usageText
    return e.exitCode.toUInt32
  | .ok request =>
    let env ← processEnvironment
    let lines ← remainingLines (← IO.getStdin)
    match Kafka.Cluster.ofLines lines with
    | .error line =>
      IO.eprintln ("not a partition: " ++ line)
      return 2
    | .ok cluster =>
      let run := Run.ofRequest .ascending request env cluster
      report (.load env) run
      return run.exitCode.toUInt32
