import LogIntake.Text.Quoted

/-!
# Failures of a planning cycle

A failure is what a caller is told when no plan could be made: its kind, which says whether a
retry can help, and a text for an operator.
-/

namespace LogIntake

/-- What went wrong, as far as a caller has to tell failures apart. -/
inductive FailureKind where
  | malformedCheckpoint
  | brokerUnavailable
  | unsupportedResetStrategy
  | invariantViolation
  | config
  deriving DecidableEq, Repr

namespace FailureKind

def all : List FailureKind :=
  [.malformedCheckpoint, .brokerUnavailable, .unsupportedResetStrategy, .invariantViolation,
    .config]

def name : FailureKind → String
  | .malformedCheckpoint => "MalformedCheckpoint"
  | .brokerUnavailable => "BrokerUnavailable"
  | .unsupportedResetStrategy => "UnsupportedResetStrategy"
  | .invariantViolation => "InvariantViolation"
  | .config => "Config"

def ofName? (s : String) : Option FailureKind := all.find? (·.name == s)

/-- What a message of this kind starts with. -/
def heading : FailureKind → String
  | .malformedCheckpoint => "Malformed Checkpoint"
  | .brokerUnavailable => "Broker Unavailable"
  | .unsupportedResetStrategy => "Unsupported Reset Strategy"
  | .invariantViolation => "Invariant Violation"
  | .config => "Config Error"

end FailureKind

/-- A failure as it is reported. -/
structure Failure where
  kind : FailureKind
  /-- The text without the heading of its kind. -/
  text : String
  deriving DecidableEq, Repr

namespace Failure

def message (f : Failure) : String := f.kind.heading ++ " - " ++ f.text

/-- Only a broker gets well by itself: all other failures need another input. -/
def retryable (f : Failure) : Bool := f.kind = .brokerUnavailable

/-- The failure as it is shown to a developer. -/
def debugText (f : Failure) : String := f.kind.name ++ "(" ++ Text.quoted f.text ++ ")"

end Failure

end LogIntake
