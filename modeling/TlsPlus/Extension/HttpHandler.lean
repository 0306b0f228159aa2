/-
The handler that redirects Burp's requests (`handler/TlsPlusHttpHandler.kt`).

A request is sent to the embedded proxy in place of its own server, and carries
the server it was meant for in headers of its own: target, profile, timeout and,
if it is an HTTP/2 request, its version.

Burp's Montoya API is not part of the repository.  What the handler uses of it is
the parameter `Montoya`, over whatever Burp's messages are.
-/
import TlsPlus.Extension.Kotlin
import TlsPlus.Extension.Settings

namespace TlsPlus

open Text

structure HttpService where
  host : Str
  port : Int
  secure : Bool
deriving DecidableEq, Repr

/-- What the handler uses of the Montoya API. -/
structure Montoya (Message : Type) where
  httpService : Message → HttpService
  url : Message → Str
  httpVersion : Message → Str
  /-- the names and values of `headers()` -/
  headers : Message → List (Str × Str)
  /-- `HttpRequest.http2Request(service, message.headers(), message.body())` -/
  http2Request : HttpService → Message → Message
  withService : Message → HttpService → Message
  withHeader : Message → Str → Str → Message
  withRemovedHeader : Message → Str → Message

/-! ### The proxy's address -/

def normalizeHost (k : Kotlin) (host : Str) : Str :=
  let host := if ("[" : Str).isPrefixOf host then host.drop 1 else host
  let host := if ("]" : Str).isSuffixOf host then host.dropLast else host
  k.lowercase host

/-- `parseProxyAddr`; none where it throws. -/
def parseProxyAddr (k : Kotlin) (address : Str) : Option (Str × Int) :=
  let parts : Option (Str × Str) :=
    if ("[" : Str).isPrefixOf address then
      match address.idxOf? ']' with
      | some closingBracket =>
        if 1 < closingBracket ∧ address[closingBracket + 1]? = some ':' then
          some ((address.take closingBracket).drop 1, address.drop (closingBracket + 2))
        else none
      | none => none
    else
      match lastIndexOf ':' address with
      | some colon =>
        if 0 < colon then some (address.take colon, address.drop (colon + 1)) else none
      | none => none
  match parts with
  | none => none
  | some (host, portText) =>
    match toIntOrNull k portText with
    | some port =>
      if 1 ≤ port ∧ port ≤ 65535 then some (normalizeHost k host, port) else none
    | none => none

def isLoopbackLiteral (host : Str) : Bool := host = "::1" || ("127." : Str).isPrefixOf host

def sameEndpointHost (k : Kotlin) (requestHost proxyHost : Str) : Bool :=
  let request := replaceAll "0:0:0:0:0:0:0:1" "::1" (normalizeHost k requestHost)
  let proxy := replaceAll "0:0:0:0:0:0:0:1" "::1" (normalizeHost k proxyHost)
  request = proxy || (request = "localhost" && isLoopbackLiteral proxy)
    || (proxy = "localhost" && isLoopbackLiteral request)

/-! ### The handler -/

def buildTargetUrl (url : Str) : Str :=
  if ("http://" : Str).isPrefixOf url || ("https://" : Str).isPrefixOf url
      || ("ws://" : Str).isPrefixOf url || ("wss://" : Str).isPrefixOf url then url
  else "https://" ++ url

variable {Message : Type}

/-- The request with its version marker, set or removed, on its way to the proxy. -/
def withVersionMarker (mo : Montoya Message) (proxyService : HttpService) (m : Message) : Message :=
  -- only ASCII letters match the letters of "HTTP/2" when case is ignored
  if eqIgnoreAsciiCase (mo.httpVersion m) "HTTP/2" then
    mo.withHeader (mo.http2Request proxyService m) "X-Tlsplus-Http-Version" "HTTP/2"
  else mo.withRemovedHeader (mo.withService m proxyService) "X-Tlsplus-Http-Version"

/-- The request a request is redirected as, if it is.  `proxyEndpoint` is where the embedded
server listens, if it runs; an exception leaves the request alone. -/
def redirected (k : Kotlin) (mo : Montoya Message) (settings : Preferences)
    (proxyEndpoint : Option Str) (m : Message) : Option Message :=
  if settings.passThroughOnly then none
  else
    match proxyEndpoint with
    | none => none
    | some endpoint =>
      match parseProxyAddr k endpoint with
      | none => none
      | some (proxyHost, proxyPort) =>
        let requestService := mo.httpService m
        if sameEndpointHost k requestService.host proxyHost && requestService.port = proxyPort then
          none
        else
          let marked := withVersionMarker mo ⟨proxyHost, proxyPort, false⟩ m
          let targeted := mo.withHeader marked "X-Tlsplus-Target" (buildTargetUrl (mo.url m))
          let profiled := mo.withHeader targeted "X-Tlsplus-Profile" settings.profileName
          some (mo.withHeader profiled "X-Tlsplus-Timeout" "30")

def handleHttpRequestToBeSent (k : Kotlin) (mo : Montoya Message) (settings : Preferences)
    (proxyEndpoint : Option Str) (m : Message) : Message :=
  (redirected k mo settings proxyEndpoint m).getD m

end TlsPlus
