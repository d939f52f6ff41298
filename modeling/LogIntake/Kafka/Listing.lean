import LogIntake.Kafka.Cluster
import LogIntake.Text.Blank

/-!
# Listings of watermarks

A cluster written as lines of text, so that a cycle can be planned for watermarks that were saved
or made up. Each line has a topic, the number of a partition, and its low and high watermark, with
blanks between them. Lines without anything are skipped.

## Main definitions

- `Listing.words`: the words of a line.
- `Listing.readEntry?`: the partition of a line.
- `Cluster.ofLines`: the cluster of a listing, or the first line that is not understood.
-/

namespace LogIntake.Kafka

/-- Puts a partition behind those of a topic, which need not be there yet. -/
def Cluster.addPartition (cluster : Cluster) (name : String) (p : TopicPartition) : Cluster :=
  let known := ((cluster.topics.get? name).map (·.partitions)).getD []
  { cluster with topics := cluster.topics.insert name ⟨none, known ++ [p]⟩ }

/-- A cluster without topics, where no request fails. -/
def Cluster.empty : Cluster := ⟨.empty, none, false, fun _ => .ok ()⟩

namespace Listing

/-- The words of a text behind a word that is not complete yet, both backward. -/
def wordsFrom (done : List (List Char)) (word : List Char) : List Char → List (List Char)
  | [] => (if word.isEmpty then done else word.reverse :: done).reverse
  | c :: rest =>
    if ! Text.isBlank c then wordsFrom done (c :: word) rest
    else if word.isEmpty then wordsFrom done [] rest
    else wordsFrom (word.reverse :: done) [] rest

/-- The words of a text, which are what stands between blanks. -/
def words (cs : List Char) : List (List Char) := wordsFrom [] [] cs

/-- A partition with its topic. -/
abbrev Entry : Type := String × TopicPartition

/-- The partition that some words describe. -/
def readEntry? : List (List Char) → Option Entry
  | [name, index, low, high] =>
    match Decimal.read .signed32 index, Decimal.read .signed64 low, Decimal.read .signed64 high with
    | .ok index, .ok low, .ok high =>
      some (.ofList name, ⟨.ofInt index, .ofInt low, .ofInt high, none⟩)
    | _, _, _ => none
  | _ => none

/-- Adds the partitions of some lines to a cluster, or gives a line that is not understood. -/
def addLines (cluster : Cluster) : List String → Except String Cluster
  | [] => .ok cluster
  | line :: rest =>
    match words line.toList with
    | [] => addLines cluster rest
    | w =>
      match readEntry? w with
      | some (name, p) => addLines (cluster.addPartition name p) rest
      | none => .error line

end Listing

/-- The cluster of a listing, or the first line that is not understood. -/
def Cluster.ofLines (lines : List String) : Except String Cluster :=
  Listing.addLines .empty lines

end LogIntake.Kafka
