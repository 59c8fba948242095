import FleetControl.Agent
import FleetControl.Client.Basic
import FleetControl.Config.Basic
import FleetControl.Config.Load
import FleetControl.Config.Show
import FleetControl.Crypto.Aes
import FleetControl.Crypto.Gcm
import FleetControl.Crypto.Hmac
import FleetControl.Crypto.Seal
import FleetControl.Crypto.Sha256
import FleetControl.Decimal.Shortest
import FleetControl.Effect.Event
import FleetControl.Effect.Handlers
import FleetControl.Effect.Output
import FleetControl.Effect.Registry
import FleetControl.Error
import FleetControl.Firewall.Basic
import FleetControl.Fresh
import FleetControl.Http.Address
import FleetControl.Http.Endpoint
import FleetControl.Http.MediaType
import FleetControl.Http.Message
import FleetControl.Http.Percent
import FleetControl.Http.Respond
import FleetControl.Inventory.Basic
import FleetControl.Inventory.Lifecycle
import FleetControl.Job.Basic
import FleetControl.Job.Kind
import FleetControl.Job.Status
import FleetControl.Job.Work
import FleetControl.Json.Basic
import FleetControl.Json.Decode
import FleetControl.Json.Draft
import FleetControl.Json.Numeral
import FleetControl.Json.Render
import FleetControl.Main
import FleetControl.NameSet
import FleetControl.Notice
import FleetControl.Plane.Agents
import FleetControl.Plane.Basic
import FleetControl.Plane.Jobs
import FleetControl.Plane.Operation
import FleetControl.Plane.Ports
import FleetControl.Port.Allocate
import FleetControl.Port.Basic
import FleetControl.Port.Lease
import FleetControl.Port.Rule
import FleetControl.Port.RuleSet
import FleetControl.Signature.Canonical
import FleetControl.Signature.Guard
import FleetControl.Signature.Verify
import FleetControl.State.Agents
import FleetControl.State.Basic
import FleetControl.State.Dispatch
import FleetControl.State.Effects
import FleetControl.State.Firewalls
import FleetControl.State.Jobs
import FleetControl.State.Reports
import FleetControl.Store.Basic
import FleetControl.Table
import FleetControl.Text.Ascii
import FleetControl.Text.Base64
import FleetControl.Text.Blank
import FleetControl.Text.Bytes
import FleetControl.Text.Hex
import FleetControl.Text.Hidden
import FleetControl.Text.Numeral
import FleetControl.Text.Quoted
import FleetControl.Text.Reader
import FleetControl.Time.Calendar
import FleetControl.Time.Instant
import FleetControl.Time.Stamp
import FleetControl.Toml.Basic
import FleetControl.Toml.Number
import FleetControl.Toml.Read
import FleetControl.Toml.Text
import FleetControl.Toml.Write
import FleetControl.Wire.Agents
import FleetControl.Wire.Answer
import FleetControl.Wire.Event
import FleetControl.Wire.Inventory
import FleetControl.Wire.Jobs
import FleetControl.Wire.Notice
import FleetControl.Wire.Outcome
import FleetControl.Wire.Ports
import FleetControl.Wire.Scalar
import FleetControl.Wire.State
import FleetControl.Wire.Work
import FleetControl.Proofs.JobStore.Surroundings
import FleetControl.Proofs.JobStore.Change
import FleetControl.Proofs.JobStore.Writes
import FleetControl.Proofs.JobStore.Operations
import FleetControl.Proofs.JobStore.Results
import FleetControl.Proofs.JobStore.Rows
import FleetControl.Proofs.JobStore.Running
import FleetControl.Proofs.State.Agents
import FleetControl.Proofs.Plane.Commits
import FleetControl.Proofs.Plane.Blocks
import FleetControl.Proofs.Plane.Releases
import FleetControl.Proofs.Plane.Records
import FleetControl.Proofs.Plane.Jobs
import FleetControl.Proofs.Plane.Roster
import FleetControl.Proofs.Plane.Agency
import FleetControl.Proofs.JobStore.Numbering
import FleetControl.Proofs.JobStore.Soundness
import FleetControl.Proofs.JobStore.Lifecycle
import FleetControl.Proofs.JobStore.Ledger
import FleetControl.Proofs.Plane.Trail
import FleetControl.Proofs.Signature.Memory
import FleetControl.Proofs.Signature.Replay
import FleetControl.Proofs.Json.Numeral
import FleetControl.Proofs.Json.Pretty
import FleetControl.Proofs.Decimal.Layout
import FleetControl.Proofs.Json.Value
import FleetControl.Proofs.Json.Decode
import FleetControl.Proofs.Json.Record
import FleetControl.Proofs.Time.Stamp
import FleetControl.Proofs.Wire.Scalar
import FleetControl.Proofs.Wire.Rows
import FleetControl.Proofs.Store.Reload
import FleetControl.Proofs.Plane.Transactions
import FleetControl.Proofs.Plane.Ceilings
import FleetControl.Proofs.Plane.Routing
import FleetControl.Proofs.Text.Bytes
import FleetControl.Proofs.Crypto.Seal
import FleetControl.Proofs.Http.Authority
import FleetControl.Proofs.Http.Server
import FleetControl.Proofs.Http.Registration
import FleetControl.Proofs.Http.Reload
import FleetControl.Proofs.Text.Blank
import FleetControl.Proofs.Text.Ascii
import FleetControl.Proofs.Text.Hex
import FleetControl.Proofs.Port.RuleSet
import FleetControl.Proofs.Port.Rule
import FleetControl.Proofs.Job.Work
import FleetControl.Proofs.Job.Views
import FleetControl.Proofs.Port.FreeRuns
import FleetControl.Proofs.Port.Deeds
import FleetControl.Proofs.Port.Blocks
import FleetControl.Proofs.Port.Disjoint
import FleetControl.Proofs.Port.Clear
import FleetControl.Proofs.Effect.Registry
import FleetControl.Proofs.Firewall.Acts
import FleetControl.Proofs.Firewall.Network
import FleetControl.Proofs.Firewall.Requests
import FleetControl.Proofs.Firewall.Results
import FleetControl.Proofs.Firewall.Gap
import FleetControl.Proofs.Firewall.Soundness
import FleetControl.Proofs.Plane.Network
import FleetControl.Proofs.Plane.Reconcile
import FleetControl.Proofs.Plane.Settling
import FleetControl.Proofs.Plane.Convergence
import FleetControl.Proofs.InPlace.Basic
import FleetControl.Proofs.InPlace.Jobs
import FleetControl.Proofs.InPlace.Ports
import FleetControl.Proofs.InPlace.Events
import FleetControl.Proofs.InPlace.Reports
import FleetControl.Proofs.Effect.Independence
import FleetControl.Proofs.InPlace.Dispatch
import FleetControl.Proofs.InPlace.Plane
import FleetControl.Proofs.Effect.Order
import FleetControl.Proofs.JobStore.Provenance
import FleetControl.Proofs.Plane.Provenance
import FleetControl.Proofs.Plane.Decoding
import FleetControl.Proofs.Firewall.Managed
import FleetControl.Proofs.Plane.Closing
import FleetControl.Proofs.JobStore.Errands
import FleetControl.Proofs.Plane.FollowUps
import FleetControl.Proofs.Store.Interleaving
import FleetControl.Proofs.Signature.Signing
import FleetControl.Proofs.Signature.Binding
import FleetControl.Proofs.Signature.Verdict
import FleetControl.Proofs.Plane.Identity
import FleetControl.Proofs.Store.RoundTrip
import FleetControl.Proofs.Plane.Revision
import FleetControl.Proofs.Port.Unique
import FleetControl.Proofs.Plane.Erasure
import FleetControl.Proofs.Port.FreePorts
import FleetControl.Proofs.Port.FirstFit
import FleetControl.Proofs.JobStore.Selection
import FleetControl.Proofs.Plane.Polling
import FleetControl.Proofs.Port.Choice
import FleetControl.Proofs.JobStore.Sweep
import FleetControl.Proofs.JobStore.Finish
import FleetControl.Proofs.Port.Teardown
import FleetControl.Proofs.Plane.Teardown
import FleetControl.Proofs.Effect.Routing
import FleetControl.Proofs.Effect.Precedence
import FleetControl.Proofs.Port.Spelling
import FleetControl.Proofs.Job.Ports
import FleetControl.Proofs.State.Alarms
import FleetControl.Proofs.State.History
import FleetControl.Proofs.JobStore.Logs
