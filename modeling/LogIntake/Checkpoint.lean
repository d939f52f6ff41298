import LogIntake.Failure
import LogIntake.Partition

/-!
# Checkpoints and their text

A checkpoint says how far each partition of a log was read. It is stored as one line of text,
the name of the log followed by one token for each partition, such as `orders,0:1200,1:877`. The
empty text stands for no checkpoint.

## Main definitions

- `Checkpoint`: the name of a log and the offset behind the last record read of each partition.
- `Checkpoint.encode`: the text of a checkpoint, with the partitions in ascending order.
- `Checkpoint.decode`: the checkpoint of a text. Any order of the tokens and any numeral are
  accepted, but no partition twice.
-/

namespace LogIntake

/-- How far the partitions of a log were read. -/
structure Checkpoint where
  /-- The name of the log, empty if there is no checkpoint. -/
  log : String
  /-- The offset of the next record to read, for each partition. -/
  offsets : OffsetTable
  deriving DecidableEq

namespace Checkpoint

def absent : Checkpoint := ⟨"", .empty⟩

/-- A checkpoint without offsets says as little as none. -/
def isEmpty (c : Checkpoint) : Bool := c.offsets.isEmpty

/-- The checkpoint after some ranges were read: each partition goes on where its range stops. -/
def ofRanges (log : String) (ranges : List OffsetRange) : Checkpoint :=
  ⟨log, .ofList (ranges.map fun r => (r.partition, r.stop))⟩

/-! ## Writing -/

inductive EncodeError where
  | missingLog
  | separatorInLog (log : String)
  | foreignPartition (partition : Partition) (log : String)
  deriving DecidableEq

namespace EncodeError

def text : EncodeError → String
  | .missingLog => "cannot encode a checkpoint without a log name"
  | .separatorInLog log => "log name '" ++ log ++ "' contains the checkpoint separator ','"
  | .foreignPartition p log =>
    "partition " ++ p.render ++ " does not belong to log '" ++ log ++ "'"

/-- A checkpoint without a text was put together from inputs that do not fit. -/
def failure (e : EncodeError) : Failure := ⟨.invariantViolation, e.text⟩

end EncodeError

/-- The token of one entry: the number of the partition, a colon and the offset. -/
def token (e : Partition × Int64) : List Char :=
  Decimal.write e.1.index.toInt ++ ':' :: Decimal.write e.2.toInt

/-- The name and the tokens with commas between them. -/
def chars (c : Checkpoint) : List Char :=
  [','].intercalate (c.log.toList :: c.offsets.entries.map token)

def encode (c : Checkpoint) : Except EncodeError String :=
  if c.log = "" then .error .missingLog
  else if ',' ∈ c.log.toList then .error (.separatorInLog c.log)
  else
    match c.offsets.keys.find? (·.log ≠ c.log) with
    | some p => .error (.foreignPartition p c.log)
    | none => .ok (.ofList c.chars)

/-! ## Reading -/

/-- Why a text is not that of a checkpoint. -/
inductive DecodeError where
  | missingLog (text : String)
  | malformedToken (token : String)
  | badPartition (token : String) (cause : Decimal.ReadError)
  | badOffset (token : String) (cause : Decimal.ReadError)
  | repeatedPartition (partition : Partition)
  deriving DecidableEq

namespace DecodeError

def text : DecodeError → String
  | .missingLog s => "missing log name in checkpoint '" ++ s ++ "'"
  | .malformedToken t => "token '" ++ t ++ "' is not of the form <partition>:<offset>"
  | .badPartition t e => "invalid partition in token '" ++ t ++ "': " ++ e.message
  | .badOffset t e => "invalid offset in token '" ++ t ++ "': " ++ e.message
  | .repeatedPartition p => "partition " ++ p.render ++ " appears more than once"

/-- A text that cannot be read is a malformed checkpoint. -/
def failure (e : DecodeError) : Failure := ⟨.malformedCheckpoint, e.text⟩

end DecodeError

/-- Reads a token: a partition number of 32 bits up to the first colon, and then an offset of
64 bits. -/
def readToken (t : List Char) : Except DecodeError (Int32 × Int64) :=
  match t.dropWhile (· ≠ ':') with
  | [] => .error (.malformedToken (.ofList t))
  | _ :: offset =>
    match Decimal.read .signed32 (t.takeWhile (· ≠ ':')) with
    | .error e => .error (.badPartition (.ofList t) e)
    | .ok index =>
      match Decimal.read .signed64 offset with
      | .error e => .error (.badOffset (.ofList t) e)
      | .ok o => .ok (.ofInt index, .ofInt o)

/-- Reads tokens from left to right behind those read so far. The first fault ends the reading. -/
def readTokens (log : String) : OffsetTable → List (List Char) → Except DecodeError OffsetTable
  | offsets, [] => .ok offsets
  | offsets, t :: rest =>
    match readToken t with
    | .error e => .error e
    | .ok (index, o) =>
      if offsets.contains ⟨log, index⟩ then .error (.repeatedPartition ⟨log, index⟩)
      else readTokens log (offsets.insert ⟨log, index⟩ o) rest

/-- The checkpoint of a text. The name of the log reaches up to the first comma. -/
def decode (s : String) : Except DecodeError Checkpoint :=
  if s = "" then .ok absent
  else
    match s.toList.splitOn ',' with
    | [] | [] :: _ => .error (.missingLog s)
    | log :: tokens => (readTokens (.ofList log) .empty tokens).map (⟨.ofList log, ·⟩)

end Checkpoint

end LogIntake
