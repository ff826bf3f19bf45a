import RelayQuality.Address
import RelayQuality.Alarms
import RelayQuality.Catalog
import RelayQuality.Catalog.Document
import RelayQuality.Command.Arguments
import RelayQuality.Command.HopPair
import RelayQuality.Command.Invocation
import RelayQuality.Config
import RelayQuality.Config.Document
import RelayQuality.Cooldowns
import RelayQuality.Fault
import RelayQuality.Files
import RelayQuality.Globe
import RelayQuality.Grade
import RelayQuality.Json.Printer
import RelayQuality.Json.Reader
import RelayQuality.Json.Value
import RelayQuality.KeyMap
import RelayQuality.Main
import RelayQuality.Monitor.Lifecycle
import RelayQuality.Monitor.Operation
import RelayQuality.Monitor.State
import RelayQuality.Monitor.Suppression
import RelayQuality.Monitor.Sweeping
import RelayQuality.Number.Decimal
import RelayQuality.Number.Digits
import RelayQuality.Number.Fixed
import RelayQuality.Number.Hex
import RelayQuality.Number.Spelled
import RelayQuality.Probe.Echo
import RelayQuality.Probe.Transport
import RelayQuality.Proofs.Absence
import RelayQuality.Proofs.Attribution
import RelayQuality.Proofs.Availability
import RelayQuality.Proofs.CityCooldown
import RelayQuality.Proofs.Coherence
import RelayQuality.Proofs.Collision
import RelayQuality.Proofs.Comparison
import RelayQuality.Proofs.Conservation
import RelayQuality.Proofs.Control
import RelayQuality.Proofs.CooldownAlarm
import RelayQuality.Proofs.Course
import RelayQuality.Proofs.Draining
import RelayQuality.Proofs.EchoAcceptance
import RelayQuality.Proofs.EchoRoundTrip
import RelayQuality.Proofs.Erasure
import RelayQuality.Proofs.Exhaustion
import RelayQuality.Proofs.Expiry
import RelayQuality.Proofs.FailedStarts
import RelayQuality.Proofs.Filing
import RelayQuality.Proofs.Grading
import RelayQuality.Proofs.History
import RelayQuality.Proofs.HopSpelling
import RelayQuality.Proofs.Indexing
import RelayQuality.Proofs.Journal
import RelayQuality.Proofs.KeptMeans
import RelayQuality.Proofs.Laggards
import RelayQuality.Proofs.Lasting
import RelayQuality.Proofs.Levels
import RelayQuality.Proofs.Lists
import RelayQuality.Proofs.Log
import RelayQuality.Proofs.Lookup
import RelayQuality.Proofs.Notices
import RelayQuality.Proofs.Notification
import RelayQuality.Proofs.Numbering
import RelayQuality.Proofs.Places
import RelayQuality.Proofs.Quotation
import RelayQuality.Proofs.Ranking
import RelayQuality.Proofs.Reordering
import RelayQuality.Proofs.Restraint
import RelayQuality.Proofs.Rounding
import RelayQuality.Proofs.Rounds
import RelayQuality.Proofs.Run
import RelayQuality.Proofs.RunningSum
import RelayQuality.Proofs.Sampling
import RelayQuality.Proofs.SavedSettings
import RelayQuality.Proofs.SettingLines
import RelayQuality.Proofs.Spacing
import RelayQuality.Proofs.Table
import RelayQuality.Proofs.Transmissions
import RelayQuality.Proofs.Wakefulness
import RelayQuality.Rating
import RelayQuality.Report
import RelayQuality.Samples
import RelayQuality.Session
import RelayQuality.Storage
import RelayQuality.Sweep
import RelayQuality.Text.Space
import RelayQuality.Time.Calendar
import RelayQuality.Time.Clock
import RelayQuality.Time.Duration
import RelayQuality.Time.Saturation
import RelayQuality.Timeline
import RelayQuality.Toml.Printer
import RelayQuality.Toml.Quoted
import RelayQuality.Toml.Reader
import RelayQuality.Toml.Scalar
import RelayQuality.Toml.Text
import RelayQuality.Toml.Value
