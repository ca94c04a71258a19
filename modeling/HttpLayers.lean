import HttpLayers.Main
import HttpLayers.Proofs.Base64
import HttpLayers.Proofs.FieldValue
import HttpLayers.Proofs.Trim
import HttpLayers.Proofs.Credentials
import HttpLayers.Proofs.Gate
import HttpLayers.Proofs.HeaderPatch
import HttpLayers.Proofs.Stamp
import HttpLayers.Proofs.Router.Stack
import HttpLayers.Proofs.Router.Refusal
import HttpLayers.Proofs.Router.Headers
import HttpLayers.Proofs.BodyLimit
import HttpLayers.Proofs.TrustedProxies
import HttpLayers.Proofs.Cors.Answer
import HttpLayers.Proofs.Cors.Origin
import HttpLayers.Proofs.Cors.Lists
import HttpLayers.Proofs.Address.Digits
import HttpLayers.Proofs.Address.RoundTrip
import HttpLayers.Proofs.PeerTrust
import HttpLayers.Proofs.Settings.Layouts
import HttpLayers.Proofs.Settings.Kinds
import HttpLayers.Proofs.Outcome
import HttpLayers.Proofs.Settings.Forms
import HttpLayers.Proofs.Settings.Overrides
import HttpLayers.Proofs.Settings.Acceptance
import HttpLayers.Proofs.Enumeration
import HttpLayers.Proofs.Checks
import HttpLayers.Proofs.Propagation
import HttpLayers.Proofs.Launch
import HttpLayers.Proofs.Cidr.Blocks
import HttpLayers.Proofs.Cidr.Notation
import HttpLayers.Proofs.Precedence
import HttpLayers.Proofs.Router.Health
import HttpLayers.Proofs.Challenge
import HttpLayers.Proofs.DeclaredLength
import HttpLayers.Proofs.Client.Node
import HttpLayers.Proofs.Client.Sources
import HttpLayers.Proofs.Address.Suffix
import HttpLayers.Proofs.Client.Forwarded
import HttpLayers.Proofs.SlashPreference
import HttpLayers.Proofs.Clipping
import HttpLayers.Proofs.Pieces
import HttpLayers.Proofs.Charset
import HttpLayers.Proofs.Address.Endpoint
import HttpLayers.Proofs.HostAddress
import HttpLayers.Proofs.Entries
import HttpLayers.Proofs.Codings
import HttpLayers.Proofs.Settings.ListVariables
import HttpLayers.Proofs.RequestLog
import HttpLayers.Proofs.ConnectionKeys
import HttpLayers.Proofs.Hex
