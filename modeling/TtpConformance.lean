import TtpConformance.Text.Blank
import TtpConformance.Text.Lines
import TtpConformance.Text.Numeral
import TtpConformance.Text.Utf8
import TtpConformance.Double.Literal
import TtpConformance.Double.Shortest
import TtpConformance.Duration
import TtpConformance.RunError
import TtpConformance.Address.HexGroup
import TtpConformance.Address.Mac
import TtpConformance.Address.Target
import TtpConformance.Address.Ipv4
import TtpConformance.Random.WordSource
import TtpConformance.Random.Shuffle
import TtpConformance.Zone.Basic
import TtpConformance.Zone.Pairing
import TtpConformance.Settings.Basic
import TtpConformance.Options
import TtpConformance.Module.Activation
import TtpConformance.Frame.Basic
import TtpConformance.Frame.Generator
import TtpConformance.Run.Command
import TtpConformance.Run.Program
import TtpConformance.Run.Step
import TtpConformance.Run.Poll
import TtpConformance.Module.Control
import TtpConformance.Json.Value
import TtpConformance.Identity.Query
import TtpConformance.Identity.Resolve
import TtpConformance.Status.Address
import TtpConformance.Status.Tags
import TtpConformance.Status.Stats
import TtpConformance.Verify.Failure
import TtpConformance.Verify.Observe
import TtpConformance.Lock.Directory
import TtpConformance.Lock.Pair
import TtpConformance.Session.Setup
import TtpConformance.Scenario.Report
import TtpConformance.Scenario.Stage
import TtpConformance.Scenario.Exchange
import TtpConformance.Scenario.StatusDump
import TtpConformance.Scenario.Injection
import TtpConformance.Scenario.Schedule
import TtpConformance.Cross.Settings
import TtpConformance.Cross.Rounds
import TtpConformance.Lab.Basic
import TtpConformance.Settings.Layers
import TtpConformance.Shell.Executor
import TtpConformance.CommandLine.Execute
import TtpConformance.Main
import TtpConformance.Proofs.Lock.Ledger
import TtpConformance.Proofs.Lock.Directory
import TtpConformance.Proofs.Lock.Pool
import TtpConformance.Proofs.Identity.Resolve
import TtpConformance.Proofs.Lock.Take
import TtpConformance.Proofs.Random.Shuffle
import TtpConformance.Proofs.Run.Surroundings
import TtpConformance.Proofs.Scenario.Conduct
import TtpConformance.Proofs.Session.Window
import TtpConformance.Proofs.Text.Numeral
import TtpConformance.Proofs.Text.Words
import TtpConformance.Proofs.Zone.Pairing
import TtpConformance.Proofs.Status.Address
import TtpConformance.Proofs.Status.Columns
import TtpConformance.Proofs.Status.Table
import TtpConformance.Proofs.Verify.Isolation
import TtpConformance.Proofs.Scenario.Schedule
import TtpConformance.Proofs.Module.Configure
import TtpConformance.Proofs.Session.Configure
import TtpConformance.Proofs.Random.Reach
import TtpConformance.Proofs.Zone.Reach
import TtpConformance.Proofs.Identity.HostName
import TtpConformance.Proofs.Cross.Accepted
import TtpConformance.Proofs.Cross.Rounds
import TtpConformance.Proofs.Run.Answered
import TtpConformance.Proofs.Run.Together
import TtpConformance.Proofs.Identity.Distinct
import TtpConformance.Proofs.Session.Confine
import TtpConformance.Proofs.Session.Phase
import TtpConformance.Proofs.Scenario.Settle
import TtpConformance.Proofs.Cross.Accounting
import TtpConformance.Proofs.Status.Windows
import TtpConformance.Proofs.Verify.Expected
import TtpConformance.Proofs.Lock.Guard
import TtpConformance.Proofs.CommandLine.ExitCode
import TtpConformance.Proofs.Address.Groups
import TtpConformance.Proofs.Address.Mac
import TtpConformance.Proofs.Run.Poll
import TtpConformance.Proofs.Zone.Attempts
import TtpConformance.Proofs.Address.Target
import TtpConformance.Proofs.Duration.Seconds
import TtpConformance.Proofs.Options.Allowed
import TtpConformance.Proofs.Identity.GatewayZones
import TtpConformance.Proofs.Status.Counters
import TtpConformance.Proofs.Status.Fragment
import TtpConformance.Proofs.Module.Arguments
import TtpConformance.Proofs.Shell.Spelling
import TtpConformance.Proofs.Frame.Script
import TtpConformance.Proofs.Settings.Paths
import TtpConformance.Proofs.Toml.Names
import TtpConformance.Proofs.Settings.Fields
import TtpConformance.Proofs.Settings.Layers
import TtpConformance.Proofs.Session.Endless
