import LifecycleOperator.Text.Base64
import LifecycleOperator.Main
import LifecycleOperator.Cluster.Definition
import LifecycleOperator.Console.Document
import LifecycleOperator.Fault.Document
import LifecycleOperator.Store.Stage
import LifecycleOperator.Api.Document
import LifecycleOperator.Rest.Document
import LifecycleOperator.Pass.Document
import LifecycleOperator.Release.ProfileDocument
import LifecycleOperator.Json.Member
import LifecycleOperator.Text.Numeral
import LifecycleOperator.Operator.Rehearsal
import LifecycleOperator.Operator.Basic
import LifecycleOperator.Console.ListenAddress
import LifecycleOperator.Controller.Rehearsal
import LifecycleOperator.Controller.Agenda
import LifecycleOperator.Controller.Basic
import LifecycleOperator.Rest.Rehearsal
import LifecycleOperator.Ishtar.Client
import LifecycleOperator.Token.Login
import LifecycleOperator.Rest.Release
import LifecycleOperator.Rest.Client
import LifecycleOperator.Operator.Wire
import LifecycleOperator.Api.Rehearsal
import LifecycleOperator.Api.Client
import LifecycleOperator.Api.Message
import LifecycleOperator.Cluster.Call
import LifecycleOperator.Rest.Message
import LifecycleOperator.Rest.Url
import LifecycleOperator.Console.Diagnostics
import LifecycleOperator.Console.Timestamp
import LifecycleOperator.Metrics.Exposition
import LifecycleOperator.Metrics.Basic
import LifecycleOperator.Console.CommandLine
import LifecycleOperator.Console.Identity
import LifecycleOperator.Token.Rehearsal
import LifecycleOperator.Token.Cache
import LifecycleOperator.Store.Rehearsal
import LifecycleOperator.Store.Operation
import LifecycleOperator.Store.Response
import LifecycleOperator.Store.Basic
import LifecycleOperator.Pass.Phase
import LifecycleOperator.Pass.Bootstrap
import LifecycleOperator.Pass.Rollout
import LifecycleOperator.Pass.Progress
import LifecycleOperator.Pass.Ensure
import LifecycleOperator.Pass.Call
import LifecycleOperator.Program.Basic
import LifecycleOperator.Rest.Assembly
import LifecycleOperator.Token.Credential
import LifecycleOperator.Resource.Build
import LifecycleOperator.Cluster.Event
import LifecycleOperator.Configuration.Data
import LifecycleOperator.Release.Profile
import LifecycleOperator.Cluster.Object
import LifecycleOperator.Fault
import LifecycleOperator.Template.Render
import LifecycleOperator.Template.Source
import LifecycleOperator.Text.LowerCase
import LifecycleOperator.Text.Quoted
import LifecycleOperator.Yaml.Node
import LifecycleOperator.Json.Document
import LifecycleOperator.Json.Printer
import LifecycleOperator.Json.Basic
import LifecycleOperator.Proofs.Program.Transcript
import LifecycleOperator.Proofs.Store.Outside
import LifecycleOperator.Proofs.Pass.Ensure
import LifecycleOperator.Proofs.Pass.Identity
import LifecycleOperator.Proofs.Pass.Requirement
import LifecycleOperator.Proofs.Pass.Composition
import LifecycleOperator.Proofs.Pass.Course
import LifecycleOperator.Proofs.Pass.Creation
import LifecycleOperator.Proofs.Pass.Gating
import LifecycleOperator.Proofs.Pass.Adoption
import LifecycleOperator.Proofs.Pass.Frame
import LifecycleOperator.Proofs.Pass.Advance
import LifecycleOperator.Proofs.Pass.Marker
import LifecycleOperator.Proofs.Program.Calls
import LifecycleOperator.Proofs.Program.Interleaving
import LifecycleOperator.Proofs.Store.Others
import LifecycleOperator.Proofs.Store.Faultless
import LifecycleOperator.Proofs.Pass.Sighting
import LifecycleOperator.Proofs.Pass.Announcement
import LifecycleOperator.Proofs.Pass.Completion
import LifecycleOperator.Proofs.Pass.Concurrency
import LifecycleOperator.Proofs.Pass.Sparing
import LifecycleOperator.Proofs.Pass.Order
import LifecycleOperator.Proofs.Pass.Settling
import LifecycleOperator.Proofs.Token.Callers
import LifecycleOperator.Proofs.Token.Renewal
import LifecycleOperator.Proofs.Token.Safety
import LifecycleOperator.Proofs.Pass.Convergence
import LifecycleOperator.Proofs.Pass.Footprint
import LifecycleOperator.Proofs.Program.Relay
import LifecycleOperator.Proofs.Pass.Provenance
import LifecycleOperator.Proofs.Program.Regions
import LifecycleOperator.Proofs.Pass.Isolation
import LifecycleOperator.Proofs.Controller.Visits
import LifecycleOperator.Proofs.Metrics.Family
import LifecycleOperator.Proofs.Controller.Health
import LifecycleOperator.Proofs.Metrics.Reader
import LifecycleOperator.Proofs.Metrics.Verbatim
import LifecycleOperator.Proofs.Metrics.Readability
import LifecycleOperator.Proofs.Controller.Scrape
import LifecycleOperator.Proofs.Controller.Balance
import LifecycleOperator.Proofs.Program.Indifference
import LifecycleOperator.Proofs.Pass.Publication
import LifecycleOperator.Proofs.Pass.Chronicle
import LifecycleOperator.Proofs.Resource.Reference
import LifecycleOperator.Proofs.Store.Constancy
import LifecycleOperator.Proofs.Program.Heed
import LifecycleOperator.Proofs.Pass.Supply
import LifecycleOperator.Proofs.Pass.Provision
import LifecycleOperator.Proofs.Pass.Traversal
import LifecycleOperator.Proofs.Pass.Custody
import LifecycleOperator.Proofs.Json.Numeral
import LifecycleOperator.Proofs.Json.Scanning
import LifecycleOperator.Proofs.Json.Reading
import LifecycleOperator.Proofs.Json.Spelling
import LifecycleOperator.Proofs.Json.Lossless
import LifecycleOperator.Proofs.Rest.Exchange
import LifecycleOperator.Proofs.Token.Obtaining
import LifecycleOperator.Proofs.Ishtar.Errand
import LifecycleOperator.Proofs.Rest.Outward
import LifecycleOperator.Proofs.Rest.Headers
import LifecycleOperator.Proofs.Ishtar.Session
import LifecycleOperator.Proofs.Json.Field
import LifecycleOperator.Proofs.Ishtar.Verdict
import LifecycleOperator.Proofs.Ishtar.Process
import LifecycleOperator.Proofs.Text.LowerCase
import LifecycleOperator.Proofs.Release.Dependence
import LifecycleOperator.Proofs.Resource.Wiring
import LifecycleOperator.Proofs.Pass.Wiring
import LifecycleOperator.Proofs.Rest.Host
import LifecycleOperator.Proofs.Rest.Path
import LifecycleOperator.Proofs.Rest.Address
import LifecycleOperator.Proofs.Rest.Trimming
import LifecycleOperator.Proofs.Rest.Retrieval
import LifecycleOperator.Proofs.Rest.LetterCase
import LifecycleOperator.Proofs.Pass.Presence
import LifecycleOperator.Proofs.Program.Twins
import LifecycleOperator.Proofs.Pass.Image
import LifecycleOperator.Proofs.Pass.Notes
import LifecycleOperator.Proofs.Pass.Indistinct
import LifecycleOperator.Proofs.Template.Rendering
import LifecycleOperator.Proofs.Configuration.Listing
import LifecycleOperator.Token.Span
import LifecycleOperator.Proofs.Token.Freshness
import LifecycleOperator.Proofs.Pass.ShortCircuit
import LifecycleOperator.Proofs.Pass.Naming
import LifecycleOperator.Proofs.Rest.Joining
