/-!
# Error codes of a Kafka cluster

The codes with which the client library says why a request failed. Those that matter or are often
met have names here, and any other code is given by its name and by what it means.
-/

namespace LogIntake.Kafka

/-- Why a request failed, as the cluster or the client library says it. -/
inductive ErrorCode where
  | unknownTopic
  | unknownTopicOrPartition
  | unknownTopicId
  | unknownPartition
  | topicAuthorizationFailed
  | clusterAuthorizationFailed
  | leaderNotAvailable
  | notLeaderForPartition
  | invalidTopic
  | requestTimedOut
  | operationTimedOut
  | brokerTransportFailure
  | allBrokersDown
  | noError
  | unknown
  | other (name description : String)
  deriving DecidableEq, Repr

namespace ErrorCode

/-- The codes with names. -/
def named : List ErrorCode :=
  [.unknownTopic, .unknownTopicOrPartition, .unknownTopicId, .unknownPartition,
    .topicAuthorizationFailed, .clusterAuthorizationFailed, .leaderNotAvailable,
    .notLeaderForPartition, .invalidTopic, .requestTimedOut, .operationTimedOut,
    .brokerTransportFailure, .allBrokersDown, .noError, .unknown]

def name : ErrorCode → String
  | .unknownTopic => "UnknownTopic"
  | .unknownTopicOrPartition => "UnknownTopicOrPartition"
  | .unknownTopicId => "UnknownTopicId"
  | .unknownPartition => "UnknownPartition"
  | .topicAuthorizationFailed => "TopicAuthorizationFailed"
  | .clusterAuthorizationFailed => "ClusterAuthorizationFailed"
  | .leaderNotAvailable => "LeaderNotAvailable"
  | .notLeaderForPartition => "NotLeaderForPartition"
  | .invalidTopic => "InvalidTopic"
  | .requestTimedOut => "RequestTimedOut"
  | .operationTimedOut => "OperationTimedOut"
  | .brokerTransportFailure => "BrokerTransportFailure"
  | .allBrokersDown => "AllBrokersDown"
  | .noError => "NoError"
  | .unknown => "Unknown"
  | .other name _ => name

def ofName? (s : String) : Option ErrorCode := named.find? (·.name == s)

/-- What a code means, and whether the cluster or the client library found it. -/
def description : ErrorCode → String
  | .unknownTopic => "Local: Unknown topic"
  | .unknownTopicOrPartition => "Broker: Unknown topic or partition"
  | .unknownTopicId => "Broker: Unknown topic id"
  | .unknownPartition => "Local: Unknown partition"
  | .topicAuthorizationFailed => "Broker: Topic authorization failed"
  | .clusterAuthorizationFailed => "Broker: Cluster authorization failed"
  | .leaderNotAvailable => "Broker: Leader not available"
  | .notLeaderForPartition => "Broker: Not leader for partition"
  | .invalidTopic => "Broker: Invalid topic"
  | .requestTimedOut => "Broker: Request timed out"
  | .operationTimedOut => "Local: Timed out"
  | .brokerTransportFailure => "Local: Broker transport failure"
  | .allBrokersDown => "Local: All broker connections are down"
  | .noError => "Success"
  | .unknown => "Unknown broker error"
  | .other _ description => description

/-- A code is shown as its name and what it means. -/
def render (code : ErrorCode) : String := code.name ++ " (" ++ code.description ++ ")"

/-- The topic does not exist, as far as the cluster knows. -/
def IsUnknownTopic (code : ErrorCode) : Prop :=
  code = .unknownTopicOrPartition ∨ code = .unknownTopic

instance (code : ErrorCode) : Decidable code.IsUnknownTopic :=
  inferInstanceAs (Decidable (_ ∨ _))

end ErrorCode

end LogIntake.Kafka
