import TokenGate.AuthError
import TokenGate.Client.Basic
import TokenGate.Client.Endpoint
import TokenGate.Client.Error
import TokenGate.Client.Peer
import TokenGate.Client.Response
import TokenGate.Config.Basic
import TokenGate.Config.Environment
import TokenGate.Config.Json
import TokenGate.Digest.Hmac
import TokenGate.Digest.Keccak
import TokenGate.Digest.Sha256
import TokenGate.Encoding.Base64Url
import TokenGate.Encoding.Hex
import TokenGate.Gate.Connection
import TokenGate.Gate.ConnectionId
import TokenGate.Gate.PerCall
import TokenGate.Gate.Session
import TokenGate.Gate.Validation
import TokenGate.HostName.Basic
import TokenGate.HostName.Direction
import TokenGate.HostName.Joining
import TokenGate.HostName.Mapping
import TokenGate.HostName.Punycode
import TokenGate.Http.Bearer
import TokenGate.Http.Headers
import TokenGate.Http.Message
import TokenGate.Http.Socket
import TokenGate.Http.Span
import TokenGate.Http.Status
import TokenGate.Http.Target
import TokenGate.Http.Upgrade
import TokenGate.Http.Uri
import TokenGate.Http.Url
import TokenGate.Json.Basic
import TokenGate.Json.Bytes
import TokenGate.Json.Decoder
import TokenGate.Json.Fault
import TokenGate.Json.Mismatch
import TokenGate.Json.Printer
import TokenGate.Json.Reader
import TokenGate.Json.Scan
import TokenGate.Json.Skip
import TokenGate.Main
import TokenGate.Metrics
import TokenGate.Net.Address
import TokenGate.Net.AddressReader
import TokenGate.Net.Overlap
import TokenGate.Node.Basic
import TokenGate.Node.Peer
import TokenGate.Node.Serving
import TokenGate.Number.Binary64
import TokenGate.Number.Shortest
import TokenGate.Os.Error
import TokenGate.Os.FileSystem
import TokenGate.Os.Network
import TokenGate.Provider
import TokenGate.Report
import TokenGate.Rpc.Dispatcher
import TokenGate.Rpc.Envelope
import TokenGate.Rpc.Error
import TokenGate.Rpc.Registry
import TokenGate.Rpc.Router
import TokenGate.Rpc.Service
import TokenGate.Rpc.Web3
import TokenGate.Secret
import TokenGate.SecretFile
import TokenGate.Startup
import TokenGate.Text.CharClass
import TokenGate.Text.CombiningClass
import TokenGate.Text.Composition
import TokenGate.Text.Decimal
import TokenGate.Text.Mark
import TokenGate.Text.Quoted
import TokenGate.Text.Spelling
import TokenGate.Text.Unprintable
import TokenGate.Text.Utf8
import TokenGate.Text.WhiteSpace
import TokenGate.Time.Duration
import TokenGate.Time.DurationText
import TokenGate.Time.Instant
import TokenGate.Token.Claims
import TokenGate.Token.Compact
import TokenGate.Token.Validator
import TokenGate.Version
import TokenGate.Proofs.Basic
import TokenGate.Proofs.Client.Calls
import TokenGate.Proofs.Client.Credentials
import TokenGate.Proofs.Client.Dialing
import TokenGate.Proofs.Client.Dialogue
import TokenGate.Proofs.Client.Endpoint
import TokenGate.Proofs.Client.Exchange
import TokenGate.Proofs.Client.Requests
import TokenGate.Proofs.Client.Socket
import TokenGate.Proofs.Encoding.Base64Url
import TokenGate.Proofs.Gate.Admission
import TokenGate.Proofs.Gate.Agreement
import TokenGate.Proofs.Gate.Gates
import TokenGate.Proofs.Gate.History
import TokenGate.Proofs.Http.Authority
import TokenGate.Proofs.Http.Bearer
import TokenGate.Proofs.Json.Extent
import TokenGate.Proofs.Json.Members
import TokenGate.Proofs.Json.NumberText
import TokenGate.Proofs.Json.Object
import TokenGate.Proofs.Json.RoundTrip
import TokenGate.Proofs.Json.Scan
import TokenGate.Proofs.Net.Address
import TokenGate.Proofs.Net.AddressText
import TokenGate.Proofs.Node.Accounting
import TokenGate.Proofs.Node.Attempts
import TokenGate.Proofs.Node.Handshake
import TokenGate.Proofs.Node.Isolation
import TokenGate.Proofs.Node.Lifecycle
import TokenGate.Proofs.Node.Listeners
import TokenGate.Proofs.Node.Payload
import TokenGate.Proofs.Node.Services
import TokenGate.Proofs.Node.Sessions
import TokenGate.Proofs.Node.System
import TokenGate.Proofs.Os.FileSystem
import TokenGate.Proofs.Os.Network
import TokenGate.Proofs.Provider
import TokenGate.Proofs.Provider.Presented
import TokenGate.Proofs.Rpc.Answers
import TokenGate.Proofs.Rpc.Envelope
import TokenGate.Proofs.Rpc.Visibility
import TokenGate.Proofs.Secret
import TokenGate.Proofs.SecretFile
import TokenGate.Proofs.Startup
import TokenGate.Proofs.Text.Utf8
import TokenGate.Proofs.Text.WhiteSpace
import TokenGate.Proofs.Token.Canonical
import TokenGate.Proofs.Token.Form
import TokenGate.Proofs.Token.Freshness
import TokenGate.Proofs.Token.Signing
import TokenGate.Proofs.Token.Verdict
import TokenGate.Proofs.Json.Decoder
import TokenGate.Proofs.Config.Saving
import TokenGate.Proofs.Node.Registration
import TokenGate.Proofs.Rpc.Registry
import TokenGate.Proofs.Rpc.Unlocking
import TokenGate.Proofs.Token.Precedence
import TokenGate.Proofs.Gate.Replies
import TokenGate.Proofs.Client.Line
import TokenGate.Proofs.Client.OwnAnswers
import TokenGate.Proofs.Http.Authorization
import TokenGate.Proofs.Node.MessageSize
import TokenGate.Proofs.Provider.Flat
import TokenGate.Proofs.Config.Validation
import TokenGate.Proofs.Config.Rounding
import TokenGate.Proofs.Json.Shape
import TokenGate.Proofs.Rpc.Codec
