/-
The headers of a WebSocket handshake (`proxy/websocket/headers.rs`).

A handshake passes through the proxy with its hop-by-hop headers taken out, those
its own `Connection` values nominate included, and for HTTP/1.1 with a fresh
`Connection: Upgrade` and `Upgrade: websocket` put in.
-/
import TlsPlus.Http

namespace TlsPlus

open Text

/-- Which of the two WebSocket handshakes a request is: an HTTP/1.1 upgrade or an RFC 8441
Extended CONNECT. -/
inductive WebSocketTransport where
  | http1 | http2
deriving DecidableEq, Repr

/-- What `http::Uri` exposes of a parsed URL. -/
structure Uri where
  scheme : Option Str
  authority : Option Str
  host : Option Str
  port : Option Nat
  path : Str
  query : Option Str
deriving DecidableEq, Repr

/-- The text of a target, with its scheme brought to `http` or `https`. -/
def normalizeTarget (parseUri : Str → Except Str Uri) (target : Str) : Except Str Uri :=
  match splitOnce "://" target with
  | none => .error ("Invalid target URL '" ++ target ++ "': missing scheme")
  | some (scheme, remainder) =>
    let lower := toAsciiLowercase scheme
    let transportScheme : Option Str :=
      if lower = "http" ∨ lower = "ws" then some "http"
      else if lower = "https" ∨ lower = "wss" then some "https"
      else none
    match transportScheme with
    | none => .error ("Unsupported WebSocket target scheme '" ++ scheme ++ "'")
    | some transportScheme =>
      match parseUri (transportScheme ++ "://" ++ remainder) with
      | .ok uri => .ok uri
      | .error e => .error ("Invalid target URL '" ++ target ++ "': " ++ e)

def containsToken (headers : HeaderMap) (name : HeaderName) (expected : Str) : Bool :=
  (headers.getAll name).any fun value =>
    match value.toStr with
    | some text => (text.splitOn ',').any fun token => eqIgnoreAsciiCase (trim token) expected
    | none => false

def isWebsocketUpgrade (headers : HeaderMap) : Bool :=
  containsToken headers .connection "upgrade" && containsToken headers .upgrade "websocket"

def connectionTokens (headers : HeaderMap) : List Str :=
  ((((headers.getAll .connection).filterMap HeaderValue.toStr).flatMap (·.splitOn ',')).map
    trim).filter (· ≠ []) |>.map toAsciiLowercase

/-- The header pair of an HTTP/1.1 handshake, in place of any the headers had. -/
def withUpgradePair (headers : HeaderMap) (transport : WebSocketTransport) : HeaderMap :=
  if transport = .http1 then
    (headers.insert .connection (.fromStatic "Upgrade")).insert .upgrade (.fromStatic "websocket")
  else headers

/-- The test a request header passes to be sent upstream. -/
def keepsRequestHeader (nominated : List Str) (name : HeaderName) : Bool :=
  !("x-tlsplus-" : Str).isPrefixOf name.text
    && name ≠ .host && name ≠ .connection && name ≠ .upgrade
    && !(["proxy-connection", "proxy-authorization", "proxy-authenticate", "keep-alive", "te",
          "trailer", "transfer-encoding"] : List Str).contains name.text
    && !nominated.contains name.text

def requestHeaders (source : HeaderMap) (transport : WebSocketTransport) : HeaderMap :=
  withUpgradePair (source.retain (keepsRequestHeader (connectionTokens source))) transport

/-- The test a response header passes to be sent downstream. -/
def keepsResponseHeader (nominated : List Str) (name : HeaderName) : Bool :=
  name ≠ .connection && name ≠ .upgrade && name ≠ .contentLength && name ≠ .transferEncoding
    && !(["proxy-connection", "proxy-authorization", "proxy-authenticate"] : List Str).contains
          name.text
    && !nominated.contains name.text

def responseHeaders (source : HeaderMap) (transport : WebSocketTransport) : HeaderMap :=
  withUpgradePair (source.retain (keepsResponseHeader (connectionTokens source))) transport

end TlsPlus
