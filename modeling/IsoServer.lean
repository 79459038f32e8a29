import IsoServer.Base64
import IsoServer.Bytes
import IsoServer.CommandLine.Parse
import IsoServer.CommandLine.Port
import IsoServer.Config.Basic
import IsoServer.Config.Fault
import IsoServer.Config.Format
import IsoServer.Config.Setting
import IsoServer.Decimal.Binary64
import IsoServer.FileSystem.Basic
import IsoServer.FileSystem.Change
import IsoServer.FileSystem.Walk
import IsoServer.Files.Entry
import IsoServer.Files.Listing
import IsoServer.Files.Resolve
import IsoServer.Files.Serve
import IsoServer.Http.Date
import IsoServer.Http.Headers
import IsoServer.Http.MediaType
import IsoServer.Http.Message
import IsoServer.Http.Range
import IsoServer.Http.Uri
import IsoServer.Http.Wire
import IsoServer.Json.Basic
import IsoServer.Json.Reader
import IsoServer.Json.Writer
import IsoServer.Lifecycle.Listener
import IsoServer.Lifecycle.Shutdown
import IsoServer.Lifecycle.Startup
import IsoServer.Main
import IsoServer.Net.IpAddress
import IsoServer.Proofs.Names
import IsoServer.Proxy.Client
import IsoServer.Proxy.Environment
import IsoServer.Proxy.Exchange
import IsoServer.Proxy.Forward
import IsoServer.Proxy.Framing
import IsoServer.Proxy.Target
import IsoServer.Server.Isolation
import IsoServer.Server.Respond
import IsoServer.Text.CaseTables
import IsoServer.Text.Caseless
import IsoServer.Text.CodePoints
import IsoServer.Text.Combining
import IsoServer.Text.Composition
import IsoServer.Text.Direction
import IsoServer.Text.Joining
import IsoServer.Text.Lowercase
import IsoServer.Text.Markup
import IsoServer.Text.Percent
import IsoServer.Text.Quoted
import IsoServer.Text.Similarity
import IsoServer.Text.Terminal
import IsoServer.Text.Utf8
import IsoServer.Text.Visible
import IsoServer.Url.Basic
import IsoServer.Url.Domain
import IsoServer.Url.Host
import IsoServer.Url.NameTable
import IsoServer.Url.Parse
import IsoServer.Url.Punycode
import IsoServer.Proofs.Walks
import IsoServer.Proofs.Confinement
import IsoServer.Proofs.Digits
import IsoServer.Proofs.Framing
import IsoServer.Proofs.Base64
import IsoServer.Proofs.Targets
import IsoServer.Proofs.Fetching
import IsoServer.Proofs.Forwarding
import IsoServer.Proofs.Isolation
import IsoServer.Proofs.Bodies
import IsoServer.Proofs.Delivery
import IsoServer.Proofs.Resolution
import IsoServer.Proofs.Dispatch
import IsoServer.Proofs.Discretion
import IsoServer.Proofs.Starting
import IsoServer.Proofs.Validation
import IsoServer.Proofs.Coordinators
import IsoServer.Proofs.Signals
import IsoServer.Proofs.Escapes
import IsoServer.Proofs.Reachability
import IsoServer.Proofs.Heads
import IsoServer.Proofs.Verdicts
import IsoServer.Proofs.Stopping
import IsoServer.Proofs.Characters
import IsoServer.Proofs.JsonText
import IsoServer.Proofs.Records
import IsoServer.Proofs.Keys
import IsoServer.Proofs.Settings
import IsoServer.Proofs.Attempts
import IsoServer.Proofs.Components
import IsoServer.Proofs.Pages
import IsoServer.Proofs.Links
import IsoServer.Proofs.Redirects
import IsoServer.Proofs.Following
import IsoServer.Proofs.Listings
import IsoServer.Proofs.Slashes
import IsoServer.Proofs.Rows
import IsoServer.Proofs.Addresses
import IsoServer.Proofs.Ports
import IsoServer.Proofs.Arguments
