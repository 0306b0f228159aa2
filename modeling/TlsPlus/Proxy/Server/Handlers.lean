/-
The request handlers of a connection (`proxy/server/connection.rs`, `proxy/service.rs`).

The connection runs a handler for each request, over HTTP/2 any number at a time, and
every handler has a sender of the bridge channel.  `proxyService` says what comes of a
request in a world that already knows whether the channel is open when the handler
gets to it.  Here that is not known beforehand: a handler that has a job waits at
`bridge_tx.send` until `run` has made room for it or the receiving end is gone, and its
answer depends on which of the two comes first.
-/
import TlsPlus.Proxy.Server.System
import TlsPlus.Proxy.Service

namespace TlsPlus

variable {Client : Type}

/-- Where a handler stands, past all it asks of the outside. -/
inductive HandlerPc where
  /-- at `bridge_tx.send` -/
  | sending
  /-- answered; `bridgeOpen` is what came of the send, if there was one -/
  | answered (bridgeOpen : Bool)
  /-- dropped at the send, with the connection or with its stream -/
  | dropped
deriving DecidableEq, Repr

/-- A handler with its request and all that it met outside the connection. -/
structure Handler (Client : Type) where
  world : World Client
  request : Request
  pc : HandlerPc

namespace Handler

/-- What comes of the request if the channel is found open, or closed. -/
def outcome (h : Handler Client) (bridgeOpen : Bool) : Handled Client :=
  proxyService { h.world with bridgeOpen := bridgeOpen } h.request

def answer (h : Handler Client) : Option (Handled Client) :=
  match h.pc with
  | .answered bridgeOpen => some (h.outcome bridgeOpen)
  | _ => none

/-- A handler as it gets to its answer, or to the send before it. -/
def arrive (world : World Client) (request : Request) : Handler Client :=
  let h : Handler Client := ⟨world, request, .sending⟩
  if (h.outcome true).jobs = [] then { h with pc := .answered true } else h

end Handler

/-- A connection with the handlers of its requests.  `dropped` is whether its task was dropped
before `run` returned; a handler may outlive it. -/
structure ServedConnection (Client : Type) where
  connection : ConnectionState BridgeJob
  handlers : List (Handler Client)
  dropped : Bool

inductive HandlerEvent (Client : Type) where
  | arrives (world : World Client) (request : Request)
  /-- `bridge_tx.send` goes through -/
  | sends (handler : Nat)
  /-- `bridge_tx.send` finds that the receiving end is gone -/
  | sendFails (handler : Nat)
  | drops (handler : Nat)
  /-- the connection's task is aborted, or panics -/
  | dropsTask
  /-- something else happens in the connection -/
  | connection (event : ConnectionEvent BridgeJob)

namespace ServedConnection

def init : ServedConnection Client := ⟨.init, [], false⟩

/-- The receiving end of the channel is gone. -/
def closed (s : ServedConnection Client) : Bool := s.dropped || s.connection.hasReturned

/-- A handler that waits at its send moves on. -/
def moves (s : ServedConnection Client) (i : Nat) (pc : HandlerPc) :
    Option (ServedConnection Client) :=
  match s.handlers[i]? with
  | some h =>
    if h.pc = .sending then some { s with handlers := s.handlers.set i { h with pc := pc } }
    else none
  | none => none

/-- The job that a handler sends. -/
def job (s : ServedConnection Client) (i : Nat) : Option BridgeJob :=
  (s.handlers[i]?).bind fun h => (h.outcome true).jobs.head?

def step (s : ServedConnection Client) : HandlerEvent Client → Option (ServedConnection Client)
  | .arrives world request =>
    if s.connection.sendersAlive then
      some { s with handlers := s.handlers ++ [.arrive world request] }
    else none
  | .sends i =>
    match s.job i with
    | some job =>
      if s.dropped then none
      else
        match connectionMachine.step s.connection (.queue job) with
        | some connection => { s with connection := connection }.moves i (.answered true)
        | none => none
    | none => none
  | .sendFails i => if s.closed then s.moves i (.answered false) else none
  | .drops i => s.moves i .dropped
  | .dropsTask =>
    if s.closed then none else some { s with connection := s.connection.drop, dropped := true }
  -- jobs are queued by handlers only
  | .connection (.queue _) => none
  -- the senders of waiting handlers are alive
  | .connection .dropSenders =>
    if s.handlers.all fun h => h.pc ≠ .sending then
      (connectionMachine.step s.connection .dropSenders).map fun c => { s with connection := c }
    else none
  | .connection (.run poll) =>
    if s.dropped then none
    else (connectionMachine.step s.connection (.run poll)).map fun c => { s with connection := c }
  | .connection event =>
    (connectionMachine.step s.connection event).map fun c => { s with connection := c }

end ServedConnection

def servedMachine : Machine (ServedConnection Client) (HandlerEvent Client) where
  step s event := s.step event

end TlsPlus
