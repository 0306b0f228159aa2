/-
The proxy's service function (`proxy/service.rs`).

Every request first passes the version guard; what is left is a WebSocket
handshake, which goes to `websocketProxy`, an invalid one, which is refused, or a
plain request, which is forwarded here.
-/
import TlsPlus.Proxy.Websocket

namespace TlsPlus

open Text

variable {Client : Type}

inductive DeclaredHttpVersion where
  | absent | http2 | invalid
deriving DecidableEq, Repr

def isHopByHop (name : Str) : Bool :=
  (["connection", "proxy-connection", "keep-alive", "proxy-authorization", "proxy-authenticate",
    "te", "trailer", "transfer-encoding", "upgrade"] : List Str).contains name

def outboundHttpVersion (declared : Option Version) (wire : Version) : Version :=
  declared.getD wire

/-- The one text value of a metadata header, or none if it is absent. -/
def internalHeader (headers : HeaderMap) (name : HeaderName) : Except Str (Option Str) :=
  match headers.getAll name with
  | [] => .ok none
  | [value] =>
    match value.toStr with
    | some text => .ok (some text)
    | none => .error "Invalid X-Tlsplus metadata header encoding"
  | _ :: _ :: _ => .error "Duplicate X-Tlsplus metadata header"

def declaredHttpVersion (headers : HeaderMap) : DeclaredHttpVersion :=
  match headers.getAll .xTlsplusHttpVersion with
  | [] => .absent
  | [value] =>
    match value.toStr with
    | some version => if eqIgnoreAsciiCase version "HTTP/2" then .http2 else .invalid
    | none => .invalid
  | _ :: _ :: _ => .invalid

def plainTarget (headers : HeaderMap) : Except Response Str :=
  match internalHeader headers .xTlsplusTarget with
  | .ok (some target) =>
    if target ≠ [] then .ok target
    else .error (errorResponse .badRequest "Missing X-Tlsplus-Target header")
  | .ok none => .error (errorResponse .badRequest "Missing X-Tlsplus-Target header")
  | .error message => .error (errorResponse .badRequest message)

def plainProfile (headers : HeaderMap) : Except Response Str :=
  match internalHeader headers .xTlsplusProfile with
  | .ok (some profile) => .ok (if profile ≠ [] then profile else "pass-through")
  | .ok none => .ok "pass-through"
  | .error message => .error (errorResponse .badRequest message)

def plainTimeoutSecs (headers : HeaderMap) : Except Response Nat :=
  match internalHeader headers .xTlsplusTimeout with
  | .ok (some value) =>
    match parseUnsigned UInt64.size value with
    | some value => .ok value
    | none => .error (errorResponse .badRequest "Invalid X-Tlsplus-Timeout header")
  | .ok none => .ok 30
  | .error message => .error (errorResponse .badRequest message)

/-- Reads the metadata of a plain request: one text value of each header at most. -/
def plainMetadata (headers : HeaderMap) : Except Response Metadata := do
  let target ← plainTarget headers
  let profile ← plainProfile headers
  let timeoutSecs ← plainTimeoutSecs headers
  return ⟨target, profile, timeoutSecs⟩

/-- The URL of a plain request's target: absolute, and `http` or `https`. -/
def plainUri (w : World Client) (target : Str) : Except Response Uri :=
  match w.parseUri target with
  | .ok uri =>
    if (uri.scheme = some ("http" : Str) ∨ uri.scheme = some ("https" : Str)) ∧
        uri.authority.isSome then .ok uri
    else .error (errorResponse .badRequest "X-Tlsplus-Target must be an absolute HTTP(S) URL")
  | .error e => .error (errorResponse .badRequest ("Invalid target URL: " ++ e))

/-- The test a header passes to be sent upstream on the plain path. -/
def keepsPlainHeader (name : HeaderName) : Bool :=
  !("x-tlsplus-" : Str).isPrefixOf name.text && name ≠ .host && !isHopByHop name.text

def plainHeaders (source : HeaderMap) : HeaderMap := source.retain keepsPlainHeader

/-- The answer to a plain request that was sent upstream. -/
def plainAnswer (w : World Client) (metadata : Metadata) : Response :=
  match w.send with
  | .response response => convertResponse response
  | .error e =>
    errorResponse .badGateway ("Request to " ++ metadata.target ++ " failed (profile: " ++
      metadata.profile ++ "): " ++ e)
  | .timeout =>
    errorResponse .gatewayTimeout ("Request to " ++ metadata.target ++ " timed out after " ++
      debugSecs (max metadata.timeoutSecs 1))

/-- `proxy_service` once the request is known to be plain. -/
def forwardPlain (w : World Client) (request : Request) (declared : Option Version) :
    Handled Client :=
  match plainMetadata request.headers with
  | .error refusal => .refused refusal
  | .ok metadata =>
    match plainUri w metadata.target with
    | .error refusal => .refused refusal
    | .ok uri =>
      match w.getWreqClient metadata.profile with
      | .error e => .refused (errorResponse .badGateway e)
      | .ok client =>
        { response := plainAnswer w metadata
          sent := [{
            client := client
            method := request.method
            uri := uri
            version := outboundHttpVersion declared request.version
            protocol := none
            headers := plainHeaders request.headers
            body := request.body }]
          jobs := [] }

/-- `proxy_service` once the version marker is known to be valid. -/
def dispatch (w : World Client) (request : Request) (declared : Option Version) :
    Handled Client :=
  let upgrade := classify request
  let tunnelRequiresMatchingVersion := request.method = .connect ∨ upgrade ≠ .none
  if tunnelRequiresMatchingVersion ∧ declared.any (· ≠ request.version) then
    .refused (errorResponse .badRequest "HTTP version changed between Burp and the TLS+ proxy")
  else
    match upgrade with
    | .webSocket transport => websocketProxy w request transport
    | .invalid => .refused (errorResponse .badRequest "Invalid WebSocket upgrade request")
    | .none => forwardPlain w request declared

def proxyService (w : World Client) (request : Request) : Handled Client :=
  match declaredHttpVersion request.headers with
  | .absent => dispatch w request none
  | .http2 => dispatch w request (some .http2)
  | .invalid => .refused (errorResponse .badRequest "Invalid X-Tlsplus-Http-Version header")

end TlsPlus
