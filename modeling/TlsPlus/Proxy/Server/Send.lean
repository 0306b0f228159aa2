/-
One request without the server (`proxy_send_request_impl` in `proxy/server/mod.rs`).

The call forwards a request and waits for the response.  Whatever comes of it is a
`ProxyResponse` with the request's id; an error is one with status 0.
-/
import TlsPlus.Proxy.Forward

namespace TlsPlus

variable {Client : Type}

structure ProxyRequest where
  id : Str
  method : Str
  url : Str
  headers : List Str
  body : List UInt8
  profile : Str
  timeoutSecs : Nat
deriving DecidableEq

/-- What a call did: its response, the requests it handed to wreq and the milliseconds it slept
before each repetition. -/
structure Answered (Client : Type) where
  response : ProxyResponse
  sent : List (BufferedRequest Client)
  sleeps : List Nat

/-- The response that carries an error. -/
def failedResponse (id error : Str) : ProxyResponse where
  id := id
  statusCode := 0
  headers := []
  body := []
  ja4 := none
  error := some error

def sendRequest (w : ForwardWorld Client) (request : ProxyRequest) : Answered Client :=
  let forwarded := forwardRequest w request.url request.method request.headers request.body
    request.profile request.timeoutSecs
  { response :=
      match forwarded.result with
      | .ok response => { response with id := request.id }
      | .error error => failedResponse request.id error
    sent := forwarded.sent
    sleeps := forwarded.sleeps }

/-- `proxy_send_request_impl`; `runtime` is the shared runtime, or why it could not be built. -/
def proxySendRequest (runtime : Except Str Unit) (w : ForwardWorld Client)
    (request : ProxyRequest) : Answered Client :=
  match runtime with
  | .ok () => sendRequest w request
  | .error error => ⟨failedResponse request.id error, [], []⟩

end TlsPlus
