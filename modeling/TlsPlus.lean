import TlsPlus.Proofs.Transport
import TlsPlus.Proofs.HttpClient
import TlsPlus.Proofs.Proxy.Tunnel
import TlsPlus.Proofs.Proxy.Metadata
import TlsPlus.Proofs.Proxy.Target
import TlsPlus.Proofs.Proxy.Protocol
import TlsPlus.Proofs.Proxy.Nominated
import TlsPlus.Proofs.Proxy.Handshake
import TlsPlus.Proofs.Proxy.Relay
import TlsPlus.Proofs.Proxy.Forward
import TlsPlus.Proofs.Proxy.HeaderLines
import TlsPlus.Proofs.Proxy.Hops
import TlsPlus.Proofs.Proxy.Server
import TlsPlus.Proofs.Proxy.Server.Connection
import TlsPlus.Proofs.Proxy.Server.Task
import TlsPlus.Proofs.Proxy.Server.Send
import TlsPlus.Proofs.Proxy.Server.Progress
import TlsPlus.Proofs.Proxy.Server.System
import TlsPlus.Proofs.Proxy.Server.Handlers
import TlsPlus.Proofs.Extension.AutoStart
import TlsPlus.Proofs.Extension.SettingsUi
import TlsPlus.Proofs.Extension.HttpHandler
import TlsPlus.Proofs.Extension.Endpoint
import TlsPlus.Proofs.Extension.NativeLoader
import TlsPlus.Proofs.Extension.Redirect
import TlsPlus.Proofs.Extension.Requests
import TlsPlus.Proofs.Extension.Fingerprints
import TlsPlus.Proofs.Extension.OutboundTest
import TlsPlus.Proofs.Extension.Remembered
import TlsPlus.Proofs.Ja4
