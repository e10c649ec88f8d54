import ReducedDowntime.Decimal.Shortest
import ReducedDowntime.Json.Value
import ReducedDowntime.Time.Instant
import ReducedDowntime.Time.Duration
import ReducedDowntime.Time.Rfc3339
import ReducedDowntime.Text.Quoted
import ReducedDowntime.Json.Error
import ReducedDowntime.Json.Reader
import ReducedDowntime.Json.Codec
import ReducedDowntime.Wire.Documents
import ReducedDowntime.Wire.Codecs
import ReducedDowntime.Failure
import ReducedDowntime.Poll.Budget
import ReducedDowntime.Log
import ReducedDowntime.Spec.Init
import ReducedDowntime.Spec.Apply
import ReducedDowntime.Wire.Kinds
import ReducedDowntime.Text.Width
import ReducedDowntime.Report.Text
import ReducedDowntime.Report.Table
import ReducedDowntime.Service.Script
import ReducedDowntime.Service.Lifecycle
import ReducedDowntime.Service.Appliance
import ReducedDowntime.Flow.World
import ReducedDowntime.Flow.Precheck
import ReducedDowntime.Flow.Monitor
import ReducedDowntime.Flow.PluginUpdate
import ReducedDowntime.Flow.Session
import ReducedDowntime.Flow.Scenario
import ReducedDowntime.Report.Outcome
import ReducedDowntime.Cli.Similar
import ReducedDowntime.Cli.Grammar
import ReducedDowntime.Cli.Usage
import ReducedDowntime.Cli.Refusal
import ReducedDowntime.Cli.Help
import ReducedDowntime.Cli.Parse
import ReducedDowntime.Invocation.Grammar
import ReducedDowntime.Invocation.Settings
import ReducedDowntime.Client.Url
import ReducedDowntime.Client.Transport
import ReducedDowntime.Client.Endpoint
import ReducedDowntime.Log.Filter
import ReducedDowntime.Program
import ReducedDowntime.Main
import ReducedDowntime.Proofs.Run
import ReducedDowntime.Proofs.Exchange
import ReducedDowntime.Proofs.Monitor
import ReducedDowntime.Proofs.Stages
import ReducedDowntime.Proofs.Isolation
import ReducedDowntime.Proofs.Scenarios
import ReducedDowntime.Proofs.Discipline
import ReducedDowntime.Proofs.CallWords
import ReducedDowntime.Proofs.Recovery
import ReducedDowntime.Proofs.Extension
import ReducedDowntime.Proofs.Payloads
import ReducedDowntime.Proofs.Calendar
import ReducedDowntime.Proofs.InstantText
import ReducedDowntime.Proofs.ReadBack
import ReducedDowntime.Proofs.DecodedSound
import ReducedDowntime.Proofs.DocumentJson
import ReducedDowntime.Proofs.DocumentRoundTrip
import ReducedDowntime.Proofs.Schedule
import ReducedDowntime.Proofs.Waiting
import ReducedDowntime.Proofs.PrecheckPoll
import ReducedDowntime.Proofs.PluginTalk
import ReducedDowntime.Proofs.InitPayload
import ReducedDowntime.Proofs.Redaction
import ReducedDowntime.Proofs.OptionChecks
import ReducedDowntime.Proofs.Reconnect
import ReducedDowntime.Proofs.Unlimited
