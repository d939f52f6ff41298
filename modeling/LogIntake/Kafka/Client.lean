import LogIntake.Broker
import LogIntake.Kafka.Cluster

/-!
# A Kafka cluster as a broker

A client answers the planner from the metadata and the watermarks of a cluster. The watermarks of
several partitions are looked up at the same time, and the lookups may finish in any order. They
are gathered in the order of the partitions, so the first partition that failed decides the error
whatever finished first.

## Main definitions

- `Client`: a connected client, with the requests it has made.
- `connect`: the client of a connection.
- `Client.broker`: the broker, for a schedule by which lookups finish.
-/

namespace LogIntake.Kafka

structure Client where
  cluster : Cluster
  /-- How long a request may take, in milliseconds. -/
  timeout : UInt64
  /-- The requests for metadata so far, each with its timeout. -/
  metadataRequests : List (String × UInt64)
  /-- The requests for watermarks so far, each with its timeout. -/
  watermarkRequests : List (Partition × UInt64)

/-- The client of a connection, or the error that there is none. -/
def connect (connection : Connection) (cluster : Cluster) : Except Error Client :=
  match cluster.create connection.clientOptions with
  | .error e => .error (.connection connection.serverList e.text)
  | .ok () => .ok ⟨cluster, connection.timeout, [], []⟩

theorem connect_of_create {connection : Connection} {cluster : Cluster}
    (h : cluster.create connection.clientOptions = .ok ()) :
    connect connection cluster = .ok ⟨cluster, connection.timeout, [], []⟩ := by
  rw [connect, h]

theorem connect_of_refusal {connection : Connection} {cluster : Cluster} {cause : CreateError}
    (h : cluster.create connection.clientOptions = .error cause) :
    connect connection cluster = .error (.connection connection.serverList cause.text) := by
  rw [connect, h]

inductive RequestError where
  | metadata (code : ErrorCode)
  | topic (name : String) (code : ErrorCode)
  | watermarks (partition : Partition) (code : ErrorCode)
  deriving DecidableEq

namespace RequestError

def text : RequestError → String
  | .metadata code => "Failed to fetch metadata: " ++ Cluster.requestText code
  | .topic name code =>
    "Metadata error for topic " ++ name ++ ": " ++ code.name ++ " (" ++ code.render ++ ")"
  | .watermarks p code =>
    "Failed to fetch watermarks of " ++ p.render ++ ": " ++ Cluster.requestText code

/-- The error of the connection. -/
def error (e : RequestError) : Error := .kafka e.text

end RequestError

namespace ClientEvent

def noMetadata (topic : String) : Event where
  origin := .client
  level := .warn
  message := "No topic metadata found"
  fields := [("topic", .text topic)]

def unknownTopic (topic : String) (code : ErrorCode) : Event where
  origin := .client
  level := .warn
  message := "Topic does not exist"
  fields := [("topic", .text topic), ("code", .text code.name)]

def watermarksFailed (e : Error) : Event where
  origin := .client
  level := .error
  message := "Error fetching watermarks"
  fields := [("e", .text e.debugText)]

end ClientEvent

/-- The partitions of a topic by what metadata say about it, and what is logged. An unknown topic
has no partitions. -/
def topicPartitions (topic : String) :
    TopicMetadata → Except RequestError (List Int32) × List Event
  | .ok indices => (.ok indices, [])
  | .error code =>
    if code.IsUnknownTopic then (.ok [], [ClientEvent.unknownTopic topic code])
    else (.error (.topic topic code), [])

/-- The partitions of a topic as a cluster answers, and what is logged. -/
def lookupPartitions (cluster : Cluster) (topic : String) :
    Except RequestError (List Int32) × List Event :=
  match cluster.metadata topic with
  | .error code => (.error (.metadata code), [])
  | .ok none => (.ok [], [ClientEvent.noMetadata topic])
  | .ok (some found) => topicPartitions topic found

/-- The answers to lookups, in the order in which they finish. -/
abbrev Finished : Type := List (Partition × Except ErrorCode Watermarks)

/-- Lookups of watermarks that finish in the given order. -/
def lookupWatermarks (cluster : Cluster) (order : List Partition) : Finished :=
  order.map fun p => (p, cluster.watermarks p)

/-- The watermarks in a list of answers, or the first failure in it. -/
def allWatermarks : Finished → Except RequestError (List (Partition × Watermarks))
  | [] => .ok []
  | (p, .error code) :: _ => .error (.watermarks p code)
  | (p, .ok w) :: rest => (allWatermarks rest).map ((p, w) :: ·)

/-- Gathers finished lookups in the order of the partitions. -/
def gather (finished : Finished) : Except RequestError (Table Partition Watermarks) :=
  (allWatermarks (Table.ofList finished).entries).map .ofList

/-- The order in which the lookups for some partitions finish. -/
abbrev Schedule : Type := PartitionSet → List Partition

/-- The schedule by which lookups finish in the order of the partitions. -/
def Schedule.ascending : Schedule := Table.keys

namespace Client

/-- Asks for the partitions of a topic. -/
def list (topic : String) (client : Client) : Reply Client PartitionSet :=
  let found := lookupPartitions client.cluster topic
  ⟨match found.1 with
    | .error e => .error e.error.failure
    | .ok indices => .ok (.ofList (indices.map fun i => ⟨topic, i⟩)),
    found.2,
    { client with metadataRequests := client.metadataRequests ++ [(topic, client.timeout)] }⟩

/-- Asks for one of the watermarks of some partitions. All lookups are made, also when one of
them fails. -/
def offsets (schedule : Schedule) (which : Watermarks → Int64) (asked : PartitionSet)
    (client : Client) : Reply Client OffsetTable :=
  let found := gather (lookupWatermarks client.cluster (schedule asked))
  let requests := asked.keys.map fun p => (p, client.timeout)
  let after := { client with watermarkRequests := client.watermarkRequests ++ requests }
  match found with
  | .error e => ⟨.error e.error.failure, [ClientEvent.watermarksFailed e.error], after⟩
  | .ok watermarks => ⟨.ok (watermarks.mapValues which), [], after⟩

/-- The cluster as a broker. -/
def broker (schedule : Schedule) : Broker Client where
  list := list
  earliest := offsets schedule (·.low)
  latest := offsets schedule (·.high)

/-- The different timeouts of the requests for watermarks so far. -/
def watermarkTimeouts (client : Client) : List UInt64 :=
  (KeySet.ofList (client.watermarkRequests.map (·.2))).keys

end Client

end LogIntake.Kafka
