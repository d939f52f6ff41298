import LogIntake.Allocation
import LogIntake.Broker
import LogIntake.Broker.Memory
import LogIntake.Checkpoint
import LogIntake.CommandLine
import LogIntake.Cycle
import LogIntake.Cycle.Error
import LogIntake.Cycle.Session
import LogIntake.Cycle.Start
import LogIntake.Event
import LogIntake.Failure
import LogIntake.Json
import LogIntake.Kafka.Client
import LogIntake.Kafka.ClientSettings
import LogIntake.Kafka.Cluster
import LogIntake.Kafka.Connection
import LogIntake.Kafka.Error
import LogIntake.Kafka.ErrorCode
import LogIntake.Kafka.Listing
import LogIntake.LogFilter
import LogIntake.LogFilter.Directive
import LogIntake.LogFilter.Layout
import LogIntake.Logging
import LogIntake.Main
import LogIntake.Partition
import LogIntake.Pattern
import LogIntake.Pattern.Atom
import LogIntake.Pattern.Brackets
import LogIntake.Pattern.Escape
import LogIntake.Plan
import LogIntake.Program
import LogIntake.Settings
import LogIntake.Table
import LogIntake.Text.Alphabetic
import LogIntake.Text.Alphanumeric
import LogIntake.Text.Blank
import LogIntake.Text.Bytes
import LogIntake.Text.CaseIgnorable
import LogIntake.Text.Cased
import LogIntake.Text.CodeRanges
import LogIntake.Text.Decimal
import LogIntake.Text.GraphemeExtend
import LogIntake.Text.Lowercase
import LogIntake.Text.LowercaseRuns
import LogIntake.Text.Number
import LogIntake.Text.Numeric
import LogIntake.Text.Quoted
import LogIntake.Text.Unprintable
import LogIntake.Word
import LogIntake.Proofs.Allocation.Exact
import LogIntake.Proofs.Checkpoint.RoundTrip
import LogIntake.Proofs.Cycle.Snapshot
import LogIntake.Proofs.Cycle.Resumption
import LogIntake.Proofs.Cycle.Runs
import LogIntake.Proofs.Cycle.Dialogue
import LogIntake.Proofs.Cycle.Report
import LogIntake.Proofs.Cycle.Retention
import LogIntake.Proofs.Cycle.Assembly
import LogIntake.Proofs.Cycle.Heeding
import LogIntake.Proofs.Cycle.Outcomes
import LogIntake.Proofs.Cycle.Warnings
import LogIntake.Proofs.Cycle.Live
import LogIntake.Proofs.Cycle.Provenance
import LogIntake.Proofs.Text.Numeral
import LogIntake.Proofs.Checkpoint.Grammar
import LogIntake.Proofs.Cycle.Backlog
import LogIntake.Proofs.Kafka.Client
import LogIntake.Proofs.Cycle.Faults
import LogIntake.Proofs.Limits
import LogIntake.Proofs.Program
import LogIntake.Proofs.Allocation.Checked
import LogIntake.Proofs.Allocation.Progress
import LogIntake.Proofs.Allocation.Fairness
import LogIntake.Proofs.Allocation.EqualShare
import LogIntake.Proofs.Text.Canonical
import LogIntake.Proofs.Checkpoint.Canonical
import LogIntake.Proofs.Cycle.Protocol
import LogIntake.Proofs.Cycle.Surplus
import LogIntake.Proofs.Cycle.Skipping
import LogIntake.Proofs.Cycle.Validation
import LogIntake.Proofs.Kafka.Contract
import LogIntake.Proofs.Text.Case
import LogIntake.Proofs.Text.Places
import LogIntake.Proofs.Text.Trim
import LogIntake.Proofs.Kafka.ServerList
import LogIntake.Proofs.Kafka.Properties
import LogIntake.Proofs.Kafka.Conditions
import LogIntake.Proofs.Kafka.Loading
import LogIntake.Proofs.Kafka.ClientSettings
import LogIntake.Proofs.Json.Quoted
import LogIntake.Proofs.Json.Tokens
import LogIntake.Proofs.Json.Values
import LogIntake.Proofs.Json.Layouts
import LogIntake.Proofs.PlanText
import LogIntake.Proofs.TableHistory
import LogIntake.Proofs.OffsetHistory
