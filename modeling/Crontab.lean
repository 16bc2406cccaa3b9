import Crontab.Main
import Crontab.Schedule.NamedField
import Crontab.Store.Opening
import Crontab.Store.Procedure
import Crontab.Proofs.Schedule.Grammar
import Crontab.Proofs.Schedule.Rejections
import Crontab.Proofs.Time.Calendar
import Crontab.Proofs.Time.FirstPass
import Crontab.Proofs.Time.Rules
import Crontab.Proofs.Time.Atlas
import Crontab.Proofs.Time.Passes
import Crontab.Proofs.Time.Conversions
import Crontab.Proofs.Time.Detours
import Crontab.Proofs.Schedule.Matching
import Crontab.Proofs.Schedule.NextRun
import Crontab.Proofs.Schedule.SecondPass
import Crontab.Proofs.Schedule.Horizon
import Crontab.Proofs.Schedule.Enumeration
import Crontab.Proofs.Schedule.Explicit
import Crontab.Proofs.Schedule.Dates
import Crontab.Proofs.Number.Nearness
import Crontab.Proofs.Text.Numerals
import Crontab.Proofs.Data.Fields
import Crontab.Proofs.Time.Iso
import Crontab.Proofs.Number.Decimal
import Crontab.Proofs.Json.Numbers
import Crontab.Proofs.Json.Texts
import Crontab.Proofs.Json.RoundTrip
import Crontab.Proofs.Value.Json
import Crontab.Proofs.Task.Restored
import Crontab.Proofs.Task.RoundTrip
import Crontab.Proofs.Json.Agreement
import Crontab.Proofs.Json.Limits
import Crontab.Proofs.Data.Outcomes
import Crontab.Proofs.Value.Agreement
import Crontab.Proofs.Value.Proper
import Crontab.Proofs.Task.Records
import Crontab.Proofs.Task.Alike
import Crontab.Proofs.Task.Content
import Crontab.Proofs.Task.Stamps
import Crontab.Proofs.Task.Recall
import Crontab.Proofs.Task.Told
import Crontab.Proofs.Task.Whole
import Crontab.Proofs.Store.Maps
import Crontab.Proofs.Store.KeyValue
import Crontab.Proofs.Store.Rows
import Crontab.Proofs.Store.Patterns
import Crontab.Proofs.Store.Table
import Crontab.Proofs.Store.Sessions
import Crontab.Proofs.Store.Equivalence
import Crontab.Proofs.Store.Recall
import Crontab.Proofs.Store.History
import Crontab.Proofs.Store.Procedures
import Crontab.Proofs.Store.Operations
import Crontab.Proofs.Store.Failures
import Crontab.Proofs.Store.Views
import Crontab.Proofs.Store.Tenancies
import Crontab.Proofs.Store.SharedTable
import Crontab.Proofs.Store.Unreadable
import Crontab.Proofs.Store.WriteBack
import Crontab.Proofs.Store.Filing
import Crontab.Proofs.Task.Validity
import Crontab.Proofs.Task.FieldRules
import Crontab.Proofs.Task.Independence
import Crontab.Proofs.Task.Verdict
import Crontab.Proofs.Task.Scheduling
import Crontab.Proofs.Task.Persistence
import Crontab.Proofs.Store.Persistence
import Crontab.Proofs.Config.Leaves
import Crontab.Proofs.Config.Calls
import Crontab.Proofs.Task.Faults
import Crontab.Proofs.Task.Merging
import Crontab.Proofs.Task.Updates
import Crontab.Proofs.Text.Phrases
import Crontab.Proofs.Schedule.Descriptions
import Crontab.Proofs.Task.Normalization
import Crontab.Proofs.Config.Overrides
import Crontab.Proofs.Config.Shapes
import Crontab.Proofs.Config.Compatibility
import Crontab.Proofs.Config.Merging
import Crontab.Proofs.Config.Resolution
import Crontab.Proofs.Task.Timestamps
import Crontab.Proofs.Cli.Runs
