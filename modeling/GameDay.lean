import GameDay.Agent
import GameDay.Cloud.Access
import GameDay.Cloud.Agent
import GameDay.Cloud.Environment
import GameDay.Cloud.FanOut
import GameDay.Cloud.Listing
import GameDay.Cloud.Plan
import GameDay.Cloud.Pool
import GameDay.Cloud.Record
import GameDay.Cloud.Request
import GameDay.Cloud.Settings
import GameDay.Command.Args
import GameDay.Command.Discover
import GameDay.Command.ListSkills
import GameDay.Command.Loading
import GameDay.Command.Offline
import GameDay.Command.Output
import GameDay.Command.Perform
import GameDay.Command.Run
import GameDay.Command.Validate
import GameDay.Config
import GameDay.Decimal.Binary64
import GameDay.Decimal.Shortest
import GameDay.Decode.Error
import GameDay.Decode.Fields
import GameDay.Decode.OfDocument
import GameDay.Decode.OfValue
import GameDay.Decode.Source
import GameDay.Dictionary
import GameDay.Disruption.Basic
import GameDay.Disruption.Catalogue
import GameDay.Disruption.Failover
import GameDay.Disruption.FailureSettings
import GameDay.Disruption.Injection
import GameDay.Disruption.Reboot
import GameDay.Disruption.TemplateRun
import GameDay.Duration.Basic
import GameDay.Duration.Brief
import GameDay.Duration.Exact
import GameDay.Duration.Iso8601
import GameDay.Duration.Units
import GameDay.Error
import GameDay.Event
import GameDay.Experiment.Basic
import GameDay.Experiment.Launch
import GameDay.Experiment.Rollback
import GameDay.Experiment.Run
import GameDay.Experiment.Soak
import GameDay.Experiment.Trace
import GameDay.Fis.DurationCache
import GameDay.Fis.Estimate
import GameDay.Fis.TemplateActions
import GameDay.Instant
import GameDay.Inventory.Basic
import GameDay.Inventory.Brokers
import GameDay.Inventory.Functions
import GameDay.Inventory.NodeGroups
import GameDay.Inventory.Templates
import GameDay.Main
import GameDay.Power
import GameDay.Proofs.Cloud.Agent
import GameDay.Proofs.Cloud.Answers
import GameDay.Proofs.Cloud.Exchanges
import GameDay.Proofs.Cloud.Expectations
import GameDay.Proofs.Cloud.FanOut
import GameDay.Proofs.Cloud.Moves
import GameDay.Proofs.Cloud.Paging
import GameDay.Proofs.Cloud.Parameters
import GameDay.Proofs.Cloud.Plans
import GameDay.Proofs.Cloud.Routing
import GameDay.Proofs.Cloud.Status
import GameDay.Proofs.Cloud.Timeline
import GameDay.Proofs.Command.Agreement
import GameDay.Proofs.Command.DryRun
import GameDay.Proofs.Command.Listing
import GameDay.Proofs.Command.Outcome
import GameDay.Proofs.Command.Readiness
import GameDay.Proofs.Command.Reports
import GameDay.Proofs.Decode.Records
import GameDay.Proofs.Dictionary
import GameDay.Proofs.Disruption.Errors
import GameDay.Proofs.Disruption.FailureDocument
import GameDay.Proofs.Disruption.Handles
import GameDay.Proofs.Disruption.Injection
import GameDay.Proofs.Disruption.Requests
import GameDay.Proofs.Disruption.TemplateRuns
import GameDay.Proofs.Duration.Brief
import GameDay.Proofs.Duration.Components
import GameDay.Proofs.Duration.Fractions
import GameDay.Proofs.Duration.Notation
import GameDay.Proofs.Duration.Ranges
import GameDay.Proofs.Duration.Spelling
import GameDay.Proofs.Duration.TooLong
import GameDay.Proofs.Estimates.Chains
import GameDay.Proofs.Estimates.Growth
import GameDay.Proofs.Estimates.Sharing
import GameDay.Proofs.Estimates.Staleness
import GameDay.Proofs.Estimates.Traffic
import GameDay.Proofs.Experiment.Conclusion
import GameDay.Proofs.Experiment.Course
import GameDay.Proofs.Experiment.Events
import GameDay.Proofs.Experiment.Halting
import GameDay.Proofs.Experiment.Horizon
import GameDay.Proofs.Experiment.Launching
import GameDay.Proofs.Experiment.Ownership
import GameDay.Proofs.Experiment.Phases
import GameDay.Proofs.Experiment.Restoration
import GameDay.Proofs.Experiment.Reversal
import GameDay.Proofs.Experiment.Rounds
import GameDay.Proofs.Experiment.Selection
import GameDay.Proofs.Experiment.Soaking
import GameDay.Proofs.Experiment.Steps
import GameDay.Proofs.Experiment.Undoing
import GameDay.Proofs.Experiment.Uses
import GameDay.Proofs.Experiment.Watching
import GameDay.Proofs.Inventory.Arrangement
import GameDay.Proofs.Inventory.Attributes
import GameDay.Proofs.Inventory.Clusters
import GameDay.Proofs.Inventory.Forecasts
import GameDay.Proofs.Inventory.Isolation
import GameDay.Proofs.Inventory.Limits
import GameDay.Proofs.Inventory.Merging
import GameDay.Proofs.Inventory.Places
import GameDay.Proofs.Inventory.Requests
import GameDay.Proofs.Inventory.Resemblance
import GameDay.Proofs.Inventory.Tokens
import GameDay.Proofs.Report.Rendering
import GameDay.Proofs.Report.Rows
import GameDay.Proofs.Report.Tables
import GameDay.Proofs.Text.Lines
import GameDay.Proofs.Text.Numerals
import GameDay.Proofs.Text.Reading
import GameDay.Report.Basic
import GameDay.Report.Layout
import GameDay.Skill
import GameDay.Target
import GameDay.Text.Blank
import GameDay.Text.CodeSet
import GameDay.Text.Columns
import GameDay.Text.Digits
import GameDay.Text.Json
import GameDay.Text.Lowercase
import GameDay.Text.Quoted
import GameDay.Timestamp
import GameDay.Uuid
import GameDay.Yaml.Cursor
import GameDay.Yaml.Document
import GameDay.Yaml.Node
import GameDay.Yaml.Scalar.Block
import GameDay.Yaml.Scalar.Gap
import GameDay.Yaml.Scalar.Plain
import GameDay.Yaml.Scalar.Quoted
import GameDay.Yaml.Scalar.Resolve
import GameDay.Yaml.Tag
import GameDay.Yaml.Token.Basic
import GameDay.Yaml.Token.Lexer
import GameDay.Yaml.Token.Name
import GameDay.Yaml.Value
