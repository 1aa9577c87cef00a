import Gatehouse.App
import Gatehouse.CommandLine.Arguments
import Gatehouse.CommandLine.Program
import Gatehouse.Config.Basic
import Gatehouse.Config.Dotenv
import Gatehouse.Config.Environment
import Gatehouse.Config.Error
import Gatehouse.Config.Loader
import Gatehouse.Config.Record
import Gatehouse.Config.Validation
import Gatehouse.Crypto.Hmac
import Gatehouse.Crypto.Sha256
import Gatehouse.Decimal.Shortest
import Gatehouse.Decision
import Gatehouse.Fault
import Gatehouse.Gateway.Error
import Gatehouse.Gateway.Forwarding
import Gatehouse.Gateway.Health
import Gatehouse.Gateway.Server
import Gatehouse.Gateway.Service
import Gatehouse.Http.Exchange
import Gatehouse.Http.Following
import Gatehouse.Http.Header
import Gatehouse.Http.Status
import Gatehouse.Http.Uri
import Gatehouse.Identity
import Gatehouse.Json.Basic
import Gatehouse.Json.Printer
import Gatehouse.Json.Reader
import Gatehouse.Json.Record
import Gatehouse.Main
import Gatehouse.Net.Ipv4
import Gatehouse.Net.Ipv6
import Gatehouse.Net.SocketAddress
import Gatehouse.Operator
import Gatehouse.Path
import Gatehouse.Proofs.CommandLine.Options
import Gatehouse.Proofs.Config.BasePaths
import Gatehouse.Proofs.Config.BaseUrls
import Gatehouse.Proofs.Config.Documents
import Gatehouse.Proofs.Config.Layers
import Gatehouse.Proofs.Config.Steps
import Gatehouse.Proofs.Config.Unrelated
import Gatehouse.Proofs.Gateway.AnonymousPages
import Gatehouse.Proofs.Gateway.AskedOnce
import Gatehouse.Proofs.Gateway.Attached
import Gatehouse.Proofs.Gateway.ExemptPrefixes
import Gatehouse.Proofs.Gateway.HomeOnWire
import Gatehouse.Proofs.Gateway.HopByHop
import Gatehouse.Proofs.Gateway.Onboarding
import Gatehouse.Proofs.Gateway.OwnFields
import Gatehouse.Proofs.Gateway.PassedPaths
import Gatehouse.Proofs.Gateway.Redirects
import Gatehouse.Proofs.Gateway.Transparent
import Gatehouse.Proofs.Path.Joining
import Gatehouse.Proofs.Path.Placing
import Gatehouse.Proofs.Path.Trimming
import Gatehouse.Proofs.Registration.Fetching
import Gatehouse.Proofs.Registration.Replies
import Gatehouse.Proofs.Registration.Spellings
import Gatehouse.Proofs.Routing.AskedAboutCaller
import Gatehouse.Proofs.Routing.Composition
import Gatehouse.Proofs.Routing.Conservation
import Gatehouse.Proofs.Routing.FailClosed
import Gatehouse.Proofs.Routing.Folders
import Gatehouse.Proofs.Routing.LostSamples
import Gatehouse.Proofs.Routing.Moves
import Gatehouse.Proofs.Routing.ProtectedPages
import Gatehouse.Proofs.Routing.RequestAccess
import Gatehouse.Proofs.Routing.RuleRedirects
import Gatehouse.Proofs.Routing.SameRecords
import Gatehouse.Proofs.Routing.SegmentTests
import Gatehouse.Proofs.Routing.ServedAgain
import Gatehouse.Proofs.Routing.Strangers
import Gatehouse.Proofs.Routing.Visits
import Gatehouse.Proofs.Rule.Queries
import Gatehouse.Proofs.Session.Authenticity
import Gatehouse.Proofs.Session.Cookies
import Gatehouse.Proofs.Session.Precedence
import Gatehouse.Proofs.Session.Signing
import Gatehouse.Proofs.Url.Forms
import Gatehouse.Registration.Backend
import Gatehouse.Registration.Call
import Gatehouse.Registration.Records
import Gatehouse.Registration.Remote
import Gatehouse.Request
import Gatehouse.RequestId
import Gatehouse.Routing.Chain
import Gatehouse.Routing.Gate
import Gatehouse.Routing.Profile
import Gatehouse.Routing.RuleCheck
import Gatehouse.Routing.Stage
import Gatehouse.Routing.Stamp
import Gatehouse.Rule.Basic
import Gatehouse.Rule.Named
import Gatehouse.Rule.Operations
import Gatehouse.Rule.SelectOperator
import Gatehouse.Session.Cookies
import Gatehouse.Session.Error
import Gatehouse.Session.Resolver
import Gatehouse.Session.Token
import Gatehouse.Telemetry.Collector
import Gatehouse.Telemetry.LogFilter
import Gatehouse.Telemetry.LogLine
import Gatehouse.Telemetry.Measurement
import Gatehouse.Telemetry.Registry
import Gatehouse.Telemetry.Settings
import Gatehouse.Text.Base64
import Gatehouse.Text.Base64Url
import Gatehouse.Text.Blank
import Gatehouse.Text.Case
import Gatehouse.Text.Case.Table
import Gatehouse.Text.Duration
import Gatehouse.Text.Pieces
import Gatehouse.Text.Printable
import Gatehouse.Text.Quoted
import Gatehouse.Text.Utf8
import Gatehouse.Toml.Quote
import Gatehouse.Toml.Reader
import Gatehouse.Toml.Scalar
import Gatehouse.Toml.Table
import Gatehouse.Trace
import Gatehouse.Url.Basic
import Gatehouse.Url.Domain
import Gatehouse.Url.Form
import Gatehouse.Url.Login
import Gatehouse.Url.Parser
import Gatehouse.Url.Percent
import Gatehouse.Url.Punycode
import Gatehouse.Url.Relative
import Gatehouse.Vocabulary
