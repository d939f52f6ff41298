import LogIntake.Failure

/-!
# Errors of the connection to Kafka

What can go wrong between the planner and a Kafka cluster, and what the planner reports for it.
-/

namespace LogIntake.Kafka

/-- An error of the connection to Kafka. -/
inductive Error where
  | connection (server reason : String)
  | kafka (text : String)
  | config (text : String)
  | other (text : String)
  deriving DecidableEq, Repr

namespace Error

def name : Error → String
  | .connection _ _ => "Connection"
  | .kafka _ => "Kafka"
  | .config _ => "Config"
  | .other _ => "Other"

def message : Error → String
  | .connection server reason => "Connecting to Kafka " ++ server ++ " - " ++ reason
  | .kafka text => "Kafka - " ++ text
  | .config text => "Config - " ++ text
  | .other text => text

def debugText : Error → String
  | .connection server reason =>
    "Connection \x7b server: " ++ Text.quoted server ++ ", error: " ++ Text.quoted reason ++ " \x7d"
  | .kafka text => "Kafka(" ++ Text.quoted text ++ ")"
  | .config text => "Config(" ++ Text.quoted text ++ ")"
  | .other text => "Other(" ++ Text.quoted text ++ ")"

/-- The failure of a planning cycle for an error: all but wrong settings may pass with time. -/
def failure : Error → Failure
  | .config text => ⟨.config, text⟩
  | .connection server reason =>
    ⟨.brokerUnavailable, "Failed to connect to Kafka server: " ++ server ++ " - " ++ reason⟩
  | .kafka text => ⟨.brokerUnavailable, text⟩
  | .other text => ⟨.brokerUnavailable, text⟩

end Error

end LogIntake.Kafka
