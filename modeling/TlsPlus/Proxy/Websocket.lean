/-
WebSocket handshakes (`proxy/websocket/mod.rs`, `proxy/websocket/outbound.rs`).

`classify` tells the two handshakes from each other and from plain requests.
`websocketProxy` forwards a handshake and, when the upstream accepts it, queues
the job that joins the two streams before it answers the client.
-/
import TlsPlus.Proxy.Exchange

namespace TlsPlus

open Text

variable {Client : Type}

inductive UpgradeRequest where
  | none
  | invalid
  | webSocket (transport : WebSocketTransport)
deriving DecidableEq, Repr

def classify (request : Request) : UpgradeRequest :=
  match request.protocol with
  | some protocol =>
    if request.method = .connect ∧ request.version = .http2 ∧ protocol = "websocket" then
      .webSocket .http2
    else .invalid
  | none =>
    let connectionUpgrade := containsToken request.headers .connection "upgrade"
    let websocketUpgrade := containsToken request.headers .upgrade "websocket"
    if !connectionUpgrade && !websocketUpgrade then .none
    else if request.method = .get ∧ request.version = .http11 ∧ connectionUpgrade ∧
        websocketUpgrade then
      .webSocket .http1
    else .invalid

namespace Outbound

/-- `outbound::send`: the request wreq is given for a handshake. -/
def send (client : Client) (transport : WebSocketTransport) (uri : Uri) (headers : HeaderMap) :
    OutboundRequest Client where
  client := client
  method := match transport with
    | .http1 => .get
    | .http2 => .connect
  uri := uri
  version := match transport with
    | .http1 => .http11
    | .http2 => .http2
  protocol := match transport with
    | .http1 => none
    | .http2 => some "websocket"
  headers := headers
  body := []

/-- Whether the upstream accepted the handshake. -/
def isSuccess (response : UpstreamResponse) (transport : WebSocketTransport) : Bool :=
  match transport with
  | .http1 => response.version = .http11 && response.status = .switchingProtocols
  | .http2 => response.version = .http2 && response.status.isSuccess

end Outbound

/-- Reads the metadata of a handshake: the first value of each header, or the default. -/
def websocketMetadata (headers : HeaderMap) : Except Response Metadata :=
  let target := ((headers.get .xTlsplusTarget).bind HeaderValue.toStr).getD []
  if target = [] then .error (errorResponse .badRequest "Missing X-Tlsplus-Target header")
  else .ok {
    target := target
    profile := ((headers.get .xTlsplusProfile).bind HeaderValue.toStr).getD "pass-through"
    timeoutSecs := (((headers.get .xTlsplusTimeout).bind HeaderValue.toStr).bind
      (parseUnsigned UInt64.size)).elim 30 (max · 1) }

/-- The answer to a handshake that was sent upstream, and the job it queued. -/
def websocketAnswer (w : World Client) (request : Request) (transport : WebSocketTransport)
    (metadata : Metadata) : Response × List BridgeJob :=
  match w.send with
  | .error e =>
    (errorResponse .badGateway ("WebSocket request to " ++ metadata.target ++
      " failed (profile: " ++ metadata.profile ++ "): " ++ e), [])
  | .timeout =>
    (errorResponse .gatewayTimeout ("WebSocket request to " ++ metadata.target ++
      " timed out after " ++ debugSecs metadata.timeoutSecs), [])
  | .response response =>
    if !Outbound.isSuccess response transport then (convertResponse response, [])
    else if transport = .http1 ∧ !isWebsocketUpgrade response.headers then
      (errorResponse .badGateway "Upstream returned an invalid WebSocket upgrade response", [])
    else
      match w.upgrade with
      | .error e => (errorResponse .badGateway ("Upstream WebSocket upgrade failed: " ++ e), [])
      | .timeout => (errorResponse .gatewayTimeout "Upstream WebSocket upgrade timed out", [])
      | .upgraded outbound =>
        if !w.bridgeOpen then
          (errorResponse .internalServerError "WebSocket bridge is unavailable", [])
        else
          ({ version := response.version
             status := response.status
             headers := responseHeaders response.headers transport
             body := .empty }, [⟨request.onUpgrade, outbound⟩])

/-- `websocket::proxy` -/
def websocketProxy (w : World Client) (request : Request) (transport : WebSocketTransport) :
    Handled Client :=
  match websocketMetadata request.headers with
  | .error refusal => .refused refusal
  | .ok metadata =>
    match normalizeTarget w.parseUri metadata.target with
    | .error e => .refused (errorResponse .badRequest e)
    | .ok uri =>
      match w.getWreqClient metadata.profile with
      | .error e => .refused (errorResponse .badGateway e)
      | .ok client =>
        if !w.deadlineInRange metadata.timeoutSecs then
          .refused (errorResponse .badRequest "X-Tlsplus-Timeout exceeds the supported range")
        else
          let (response, jobs) := websocketAnswer w request transport metadata
          { response := response
            sent := [Outbound.send client transport uri (requestHeaders request.headers transport)]
            jobs := jobs }

end TlsPlus
