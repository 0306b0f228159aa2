/-
Buffered forwarding (`proxy/forward/mod.rs`).

`forward_request` sends a request, reads the whole response and may try again.
How often is decided twice: the budget comes from the method and the size of the
body before the first attempt, and after each attempt one of three branches asks
for another.  What an attempt meets is the outside world's; the model takes it as
a function of the attempt's number.
-/
import TlsPlus.Proxy.Exchange

namespace TlsPlus

open Text

variable {Client : Type}

def maxRetryBodySize : Nat := 1024 * 1024
def defaultTimeoutSecs : Nat := 30
def tlsDiagnosticAuthority : Str := "tls.peet.ws"
def tlsDiagnosticPath : Str := "/api/all"

/-! ### Requests and responses -/

structure ProxyResponse where
  id : Str
  statusCode : Nat
  headers : List Str
  body : List UInt8
  ja4 : Option Str
  error : Option Str
deriving DecidableEq

/-- An error of wreq: its message and what it says about itself. -/
structure WreqError where
  message : Str
  isTimeout : Bool
  isConnect : Bool
  isConnectionReset : Bool
  isDns : Bool
deriving DecidableEq

/-- A response whose body is still to be read, which can fail. -/
structure PendingResponse where
  status : StatusCode
  headers : HeaderMap
  body : Except Str (List UInt8)

/-- What one attempt meets. -/
inductive Attempt where
  | response (response : PendingResponse)
  | error (error : WreqError)
  | timeout

structure BufferedRequest (Client : Type) where
  client : Client
  method : Method
  uri : Uri
  headers : HeaderMap
  body : List UInt8
deriving DecidableEq

/-- What a call meets outside: the parsers and decoders of other crates, the client pool, and
the outcome of every attempt. -/
structure ForwardWorld (Client : Type) where
  getWreqClient : Str → Except Str Client
  parseUri : Str → Except Str Uri
  parseMethod : Str → Except Str Method
  displayStatus : StatusCode → Str
  /-- `serde_json::from_slice::<TlsDiagnosticResponse>`, its `tls.ja4` -/
  decodeDiagnostic : List UInt8 → Option Str
  attempt : Nat → Attempt

/-- What a call did: its result, the requests it handed to wreq and the milliseconds it slept
before each repetition. -/
structure Forwarded (Client : Type) where
  result : Except Str ProxyResponse
  sent : List (BufferedRequest Client)
  sleeps : List Nat

/-! ### Headers -/

/-- The header of a `Name: Value` line, if it has one. -/
def parseHeaderLine (line : Str) : Option (HeaderName × HeaderValue) :=
  match splitOnce ":" line with
  | none => none
  | some (name, value) =>
    match HeaderName.parse (trim name), HeaderValue.parse (trim value) with
    | some name, some value => some (name, value)
    | _, _ => none

def buildForwardHeaders (headers : List Str) : HeaderMap :=
  headers.foldl (fun map header =>
    match parseHeaderLine header with
    | some (name, value) => map.append name value
    | none => map) .empty

def responseHeaderLines (headers : HeaderMap) : List Str :=
  (headers.iter.filter fun e => e.1.text ≠ ("transfer-encoding" : Str)).map fun e =>
    e.1.text ++ ": " ++ fromUtf8Lossy e.2.bytes

/-! ### The diagnostics endpoint -/

def isValidJa4 (value : Str) : Bool :=
  match value.splitOn '_' with
  | [prefixPart, cipherHash, extensionHash] =>
    byteLength prefixPart = 10 && prefixPart.all (fun c => decide (c.toNat < 128)) &&
      prefixPart.all Char.isAlphanum &&
      [cipherHash, extensionHash].all fun hash =>
        byteLength hash = 12 && hash.all Char.isHexDigit
  | _ => false

def diagnosticJa4 (w : ForwardWorld Client) (uri : Uri) (status : StatusCode)
    (body : List UInt8) : Option Str :=
  if !status.isSuccess || uri.scheme ≠ some ("https" : Str)
      || !uri.host.any (fun host => eqIgnoreAsciiCase host tlsDiagnosticAuthority)
      || uri.port.any (fun port => port ≠ 443)
      || uri.path ≠ tlsDiagnosticPath || uri.query.isSome then none
  else
    match w.decodeDiagnostic body with
    | some ja4 => if isValidJa4 ja4 then some ja4 else none
    | none => none

/-! ### The retry loop -/

def isIdempotent (method : Method) : Bool :=
  match method with
  | .get | .head | .options | .put | .delete => true
  | _ => false

def isTransientError (error : WreqError) : Bool :=
  error.isTimeout || error.isConnect || error.isConnectionReset || error.isDns

def maxRetries (method : Method) (body : List UInt8) : Nat :=
  if isIdempotent method then 2
  else if body.length ≤ maxRetryBodySize then 1
  else 0

def effectiveTimeoutSecs (timeoutSecs : Nat) : Nat :=
  if timeoutSecs = 0 then defaultTimeoutSecs else timeoutSecs

def bufferResponse (w : ForwardWorld Client) (uri : Uri) (response : PendingResponse) :
    Except Str ProxyResponse :=
  match response.body with
  | .error e => .error ("Failed to read response body: " ++ e)
  | .ok body => .ok {
      id := []
      statusCode := response.status.code
      headers := responseHeaderLines response.headers
      body := body
      ja4 := diagnosticJa4 w uri response.status body
      error := none }

/-- A call that passed its checks. -/
structure ForwardCall (Client : Type) where
  targetUrl : Str
  profile : Str
  timeoutSecs : Nat
  request : BufferedRequest Client

def ForwardCall.maxRetries (call : ForwardCall Client) : Nat :=
  TlsPlus.maxRetries call.request.method call.request.body

/-- What the loop makes of an attempt: another one, or the end. -/
inductive Verdict where
  | continue (lastError : Str)
  | finish (result : Except Str ProxyResponse)

def judge (w : ForwardWorld Client) (call : ForwardCall Client) (attempt : Nat) : Verdict :=
  match w.attempt attempt with
  | .error error =>
    let lastError := "Request to " ++ call.targetUrl ++ " failed (profile: " ++ call.profile ++
      "): " ++ error.message
    if attempt < call.maxRetries && isTransientError error then .continue lastError
    else .finish (.error lastError)
  | .timeout =>
    let lastError := "Request to " ++ call.targetUrl ++ " timed out after " ++
      debugSecs (effectiveTimeoutSecs call.timeoutSecs) ++ " (profile: " ++ call.profile ++ ")"
    if attempt < call.maxRetries then .continue lastError else .finish (.error lastError)
  | .response response =>
    if response.status.isServerError && attempt < call.maxRetries then
      .continue ("Server error " ++ w.displayStatus response.status ++ " from " ++
        call.targetUrl ++ " (profile: " ++ call.profile ++ ")")
    else .finish (bufferResponse w call.request.uri response)

def backoff (attempt : Nat) : List Nat :=
  if attempt > 0 then [if attempt = 1 then 100 else 400] else []

/-- The loop, with that many attempts left. -/
def attempts (w : ForwardWorld Client) (call : ForwardCall Client) :
    (left attempt : Nat) → (lastError : Str) → Forwarded Client
  | 0, _, lastError => ⟨.error lastError, [], []⟩
  | left + 1, attempt, _ =>
    match judge w call attempt with
    | .finish result => ⟨result, [call.request], backoff attempt⟩
    | .continue lastError =>
      let rest := attempts w call left (attempt + 1) lastError
      ⟨rest.result, call.request :: rest.sent, backoff attempt ++ rest.sleeps⟩

/-- `forward_request` -/
def forwardRequest (w : ForwardWorld Client) (targetUrl method : Str) (headers : List Str)
    (body : List UInt8) (profile : Str) (timeoutSecs : Nat) : Forwarded Client :=
  match w.getWreqClient profile with
  | .error e => ⟨.error e, [], []⟩
  | .ok client =>
    match w.parseUri targetUrl with
    | .error e => ⟨.error ("Invalid URL '" ++ targetUrl ++ "': " ++ e), [], []⟩
    | .ok uri =>
      match w.parseMethod method with
      | .error e =>
        ⟨.error ("Unsupported HTTP method '" ++ method ++ "' for target " ++ targetUrl ++
          ": " ++ e), [], []⟩
      | .ok method =>
        let call : ForwardCall Client :=
          ⟨targetUrl, profile, timeoutSecs, client, method, uri, buildForwardHeaders headers, body⟩
        attempts w call (call.maxRetries + 1) 0 []

end TlsPlus
