import LogIntake.Kafka.ClientSettings
import LogIntake.Kafka.ErrorCode
import LogIntake.Partition

/-!
# A Kafka cluster as a client sees it

What the client library answers: whether it creates a client from some options, the metadata of a
topic, and the two watermarks of a partition, which are its earliest offset and its end.

## Main definitions

- `Topic`, `Cluster`: what a cluster holds, and what fails.
- `Cluster.metadata`, `Cluster.watermarks`: the answers to requests.
-/

namespace LogIntake.Kafka

structure TopicPartition where
  index : Int32
  low : Int64
  high : Int64
  error : Option ErrorCode
  deriving DecidableEq, Repr

structure Topic where
  error : Option ErrorCode
  /-- The partitions in the order of the metadata. -/
  partitions : List TopicPartition
  deriving DecidableEq, Repr

/-- Why the client library creates no client. -/
inductive CreateError where
  | creation (text : String)
  | property (description name value : String)
  deriving DecidableEq, Repr

def CreateError.text : CreateError → String
  | .creation text => "Client creation error: " ++ text
  | .property description name value =>
    "Client config error: " ++ description ++ " " ++ name ++ " " ++ value

structure Cluster where
  topics : Table String Topic
  metadataError : Option ErrorCode
  emptyMetadata : Bool
  /-- Creates a client from some options, or says why there is none, such as a property that is not
  known. -/
  create : ClientOptions → Except CreateError Unit

/-- What metadata say about a topic: an error, or the numbers of its partitions. -/
abbrev TopicMetadata : Type := Except ErrorCode (List Int32)

structure Watermarks where
  /-- The earliest offset still kept. -/
  low : Int64
  /-- The offset of the next record to be written. -/
  high : Int64
  deriving DecidableEq, Repr

namespace Cluster

/-- The wording of the client library for a request that failed. -/
def requestText (code : ErrorCode) : String := "Meta data fetch error: " ++ code.render

/-- The metadata of a topic, if they hold one. -/
def metadata (cluster : Cluster) (topic : String) : Except ErrorCode (Option TopicMetadata) :=
  match cluster.metadataError with
  | some code => .error code
  | none =>
    if cluster.emptyMetadata then .ok none
    else
      match cluster.topics.get? topic with
      | none => .ok (some (.error .unknownTopicOrPartition))
      | some found =>
        match found.error with
        | some code => .ok (some (.error code))
        | none => .ok (some (.ok (found.partitions.map (·.index))))

/-- The watermarks of a partition. They are known even where the topic has an error. -/
def watermarks (cluster : Cluster) (p : Partition) : Except ErrorCode Watermarks :=
  match (cluster.topics.get? p.log).bind fun t => t.partitions.find? (·.index = p.index) with
  | none => .error .unknownPartition
  | some found =>
    match found.error with
    | some code => .error code
    | none => .ok ⟨found.low, found.high⟩

end Cluster

end LogIntake.Kafka
