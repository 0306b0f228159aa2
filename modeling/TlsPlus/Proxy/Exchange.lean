/-
One request through the proxy, seen from outside.

The two forwarding paths are functions of the request and of a `World`: the
answers that everything outside the proxy gives while this request is handled.
They return what the outside sees: the response, the requests handed to wreq and
the jobs queued on the connection's bridge channel.
-/
import TlsPlus.Proxy.Websocket.Headers

namespace TlsPlus

open Text

/-- What came of a request handed to wreq, within its timeout. -/
inductive SendOutcome where
  | response (response : UpstreamResponse)
  | error (message : Str)
  | timeout
deriving DecidableEq

/-- What came of upgrading an upstream response.  A success yields the upstream's stream. -/
inductive UpgradeOutcome where
  | upgraded (stream : Nat)
  | error (message : Str)
  | timeout
deriving DecidableEq, Repr

/-- What one request meets outside the proxy. -/
structure World (Client : Type) where
  parseUri : Str → Except Str Uri
  getWreqClient : Str → Except Str Client
  /-- whether `Instant::now().checked_add` can represent a deadline that many seconds away -/
  deadlineInRange : Nat → Bool
  send : SendOutcome
  upgrade : UpgradeOutcome
  /-- whether the connection still holds the receiving end of its bridge channel -/
  bridgeOpen : Bool

structure OutboundRequest (Client : Type) where
  client : Client
  method : Method
  uri : Uri
  version : Version
  protocol : Option Str
  headers : HeaderMap
  body : List UInt8
deriving DecidableEq

/-- The two streams a bridge task copies between. -/
structure BridgeJob where
  inbound : Nat
  outbound : Nat
deriving DecidableEq, Repr

structure Handled (Client : Type) where
  response : Response
  sent : List (OutboundRequest Client)
  jobs : List BridgeJob
deriving DecidableEq

/-- Answered without anything having been sent or queued. -/
def Handled.refused {Client : Type} (response : Response) : Handled Client := ⟨response, [], []⟩

/-- The forwarding metadata of a request. -/
structure Metadata where
  target : Str
  profile : Str
  timeoutSecs : Nat
deriving DecidableEq, Repr

def errorResponse (status : StatusCode) (message : Str) : Response where
  version := .http11
  status := status
  headers := .empty
  body := .text message

/-- An upstream response, relayed. -/
def convertResponse (response : UpstreamResponse) : Response where
  version := response.version
  status := response.status
  headers := response.headers.remove .transferEncoding
  body := .stream response.body

/-- A whole number of seconds as `Duration` prints it for debugging. -/
def debugSecs (secs : Nat) : Str := decimal secs ++ "s"

end TlsPlus
