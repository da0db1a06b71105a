import AffinityGate.CommandLine.Arguments
import AffinityGate.CommandLine.Report
import AffinityGate.Config.Decode
import AffinityGate.Config.Draft
import AffinityGate.Config.Environment
import AffinityGate.Config.Fit
import AffinityGate.Config.Load
import AffinityGate.Config.Model
import AffinityGate.Config.Setting
import AffinityGate.Config.Template
import AffinityGate.Config.Validation
import AffinityGate.Data.Document
import AffinityGate.Data.Json
import AffinityGate.Digest.Sha256
import AffinityGate.Digest.Stable
import AffinityGate.Host.Client
import AffinityGate.Host.Pool
import AffinityGate.Host.Url
import AffinityGate.Http.Chunked
import AffinityGate.Http.Head
import AffinityGate.Http.Headers
import AffinityGate.Http.Message
import AffinityGate.Http.Received
import AffinityGate.Http.Token
import AffinityGate.Http.Uri
import AffinityGate.Http.Written
import AffinityGate.Lifecycle.Broadcast
import AffinityGate.Lifecycle.Credentials
import AffinityGate.Lifecycle.Shutdown
import AffinityGate.Lifecycle.ShutdownRace
import AffinityGate.Lifecycle.Start
import AffinityGate.Logging.Filter
import AffinityGate.Logging.Journal
import AffinityGate.Main
import AffinityGate.Net.Address
import AffinityGate.Number.Decimal
import AffinityGate.Number.FloatText
import AffinityGate.Number.Shortest
import AffinityGate.Process.Carrier
import AffinityGate.Process.DataItem
import AffinityGate.Process.Id
import AffinityGate.Proofs.Config.Report
import AffinityGate.Proofs.Config.StartUp
import AffinityGate.Proofs.Dispatch.Affinity
import AffinityGate.Proofs.Dispatch.Attempts
import AffinityGate.Proofs.Dispatch.Built
import AffinityGate.Proofs.Dispatch.Chunks
import AffinityGate.Proofs.Dispatch.Deadline
import AffinityGate.Proofs.Dispatch.Kept
import AffinityGate.Proofs.Dispatch.Rejected
import AffinityGate.Proofs.Dispatch.Sink
import AffinityGate.Proofs.Dispatch.Spawn
import AffinityGate.Proofs.Dispatch.Totals
import AffinityGate.Proofs.Effects
import AffinityGate.Proofs.Failover.Location
import AffinityGate.Proofs.Failover.Pass
import AffinityGate.Proofs.Failover.Trial
import AffinityGate.Proofs.Host.Accepted
import AffinityGate.Proofs.Host.Addressed
import AffinityGate.Proofs.Host.Construction
import AffinityGate.Proofs.Host.Lanes
import AffinityGate.Proofs.Host.Named
import AffinityGate.Proofs.Host.Origin
import AffinityGate.Proofs.Host.Rotation
import AffinityGate.Proofs.Host.Stored
import AffinityGate.Proofs.Http.FieldList
import AffinityGate.Proofs.Http.Target
import AffinityGate.Proofs.Lifecycle.Delivery
import AffinityGate.Proofs.Lifecycle.Reasons
import AffinityGate.Proofs.Lifecycle.WakeUp
import AffinityGate.Proofs.Net.Address
import AffinityGate.Proofs.Owner.Age
import AffinityGate.Proofs.Owner.Cache
import AffinityGate.Proofs.Owner.Interleaved
import AffinityGate.Proofs.Owner.Kept
import AffinityGate.Proofs.Owner.Ledger
import AffinityGate.Proofs.Owner.Override
import AffinityGate.Proofs.Owner.Swept
import AffinityGate.Proofs.Process.Carried
import AffinityGate.Proofs.Process.Carrier
import AffinityGate.Proofs.Process.DataItem
import AffinityGate.Proofs.Process.Message
import AffinityGate.Proofs.Process.Precedence
import AffinityGate.Proofs.Process.Segment
import AffinityGate.Proofs.Registry.Shape
import AffinityGate.Proofs.Registry.Trusted
import AffinityGate.Proofs.Serving.Faithful
import AffinityGate.Proofs.Serving.Forwarded
import AffinityGate.Proofs.Serving.Options
import AffinityGate.Proofs.Serving.RequestId
import AffinityGate.Proofs.Serving.Told
import AffinityGate.Proofs.Text.Base64
import AffinityGate.Proofs.Text.Ends
import AffinityGate.Proofs.Text.Pieces
import AffinityGate.Proofs.Text.Utf8
import AffinityGate.Proofs.Text.WellFormed
import AffinityGate.Proofs.Unicode.Gap
import AffinityGate.Proofs.Url.Authority
import AffinityGate.Proofs.Url.Base
import AffinityGate.Proofs.Url.Below
import AffinityGate.Proofs.Url.Spelled
import AffinityGate.Registry.Answer
import AffinityGate.Registry.Lookup
import AffinityGate.Routing.Buffered
import AffinityGate.Routing.CacheRace
import AffinityGate.Routing.Dispatch
import AffinityGate.Routing.Failover
import AffinityGate.Routing.Observation
import AffinityGate.Routing.Outside
import AffinityGate.Routing.OwnerCache
import AffinityGate.Routing.Policy
import AffinityGate.Routing.Resolver
import AffinityGate.Routing.Sweeper
import AffinityGate.Serving.App
import AffinityGate.Serving.Handler
import AffinityGate.Storage.FilePath
import AffinityGate.Storage.Files
import AffinityGate.Text.Base64
import AffinityGate.Text.Blank
import AffinityGate.Text.Form
import AffinityGate.Text.Hex
import AffinityGate.Text.Pem
import AffinityGate.Text.Percent
import AffinityGate.Text.Pieces
import AffinityGate.Text.Quoted
import AffinityGate.Text.Utf8
import AffinityGate.Time.Duration
import AffinityGate.Time.Reading
import AffinityGate.Toml.Lexical
import AffinityGate.Toml.Moment
import AffinityGate.Toml.Table
import AffinityGate.Toml.Text
import AffinityGate.Unicode.Alphanumeric
import AffinityGate.Unicode.CharSet
import AffinityGate.Unicode.Directions
import AffinityGate.Unicode.DomainMapping
import AffinityGate.Unicode.Joining
import AffinityGate.Unicode.Marks
import AffinityGate.Url.Domain
import AffinityGate.Url.Host
import AffinityGate.Url.Parse
import AffinityGate.Url.Punycode
import AffinityGate.Url.Reference
import AffinityGate.Yaml.Cursor
import AffinityGate.Yaml.Node
import AffinityGate.Yaml.Scalar
import AffinityGate.Yaml.Text
import AffinityGate.Yaml.Token
