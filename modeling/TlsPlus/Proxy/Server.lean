/-
The life cycle of the local server (`proxy/server/mod.rs`).

One process-wide `ServerState` says whether the server runs, where it listens, and
how it is told to stop.  Starting, stopping and asking for the status each hold its
lock throughout, so a history of them is a sequence.  What the outside world answers
(the parser, the runtime, the socket, the server task's completion) comes with the
call.
-/
import TlsPlus.Lib.Machine
import TlsPlus.Net

namespace TlsPlus

open Text

/-- The channels to a server task, by the task they lead to. -/
structure ServerShutdown where
  task : Nat
deriving DecidableEq, Repr

structure ServerState where
  running : Bool
  listenAddr : Option Str
  shutdown : Option ServerShutdown
deriving DecidableEq, Repr

structure ServerStatus where
  running : Bool
  listenAddr : Option Str
  message : Str
deriving DecidableEq, Repr

/-- `SERVER_STATE` as it is first built. -/
def ServerState.init : ServerState := ⟨false, none, none⟩

/-- What a start meets outside: the address parser, the shared runtime, binding with the
address the socket then reports, and the task that is spawned. -/
structure StartWorld where
  parseAddr : Str → Except Str SocketAddr
  runtime : Except Str Unit
  bind : SocketAddr → Except Str SocketAddr
  task : Nat

/-- A start that was refused. -/
def refusedStart (message : Str) : ServerStatus := ⟨false, none, message⟩

/-- `start_local_server_impl`: the status returned, and the state after. -/
def startLocalServer (w : StartWorld) (state : ServerState) (listenAddr : Str) :
    ServerStatus × ServerState :=
  if state.running then
    (⟨true, state.listenAddr, "Server is already running"⟩, state)
  else
    match w.parseAddr listenAddr with
    | .error e =>
      (refusedStart ("Invalid listen address '" ++ listenAddr ++ "': " ++ e), state)
    | .ok addr =>
      if !addr.ip.isLoopback then
        (refusedStart ("TLS+ proxy may only bind to a loopback address, got " ++ addr.display),
          state)
      else
        match w.runtime with
        | .error e => (refusedStart e, state)
        | .ok () =>
          match w.bind addr with
          | .error e => (refusedStart ("failed to bind " ++ addr.display ++ ": " ++ e), state)
          | .ok localAddr =>
            (⟨true, some localAddr.display, "Local HTTP forward proxy started"⟩,
              { running := true
                listenAddr := some localAddr.display
                shutdown := some ⟨w.task⟩ })

/-- `server_status_impl`; no state stands for a poisoned lock. -/
def serverStatus : Option ServerState → ServerStatus
  | some state =>
    { running := state.running
      listenAddr := state.listenAddr
      message :=
        if state.running then
          "Server is running" ++
            (state.listenAddr.map fun address => (" on " : Str) ++ address).getD []
        else "Server is stopped" }
  | none => ⟨false, none, "Server state lock poisoned — restart recommended"⟩

/-- `stop_local_server_impl`.  `completed` is whether the task's completion arrives in time. -/
def stopLocalServer (completed : Bool) (state : ServerState) : ServerStatus × ServerState :=
  let previousAddr := state.listenAddr
  match state.shutdown with
  | some _ =>
    (⟨false, previousAddr,
      if completed then "Local HTTP forward proxy stopped"
      else "Local HTTP forward proxy stop timed out"⟩, ⟨false, none, none⟩)
  | none => (⟨false, previousAddr, "Server was not running"⟩, ⟨false, none, none⟩)

inductive ServerCall where
  | start (w : StartWorld) (listenAddr : Str)
  | stop (completed : Bool)
  | status

/-- A call under the lock. -/
def ServerCall.serve (call : ServerCall) (state : ServerState) : ServerStatus × ServerState :=
  match call with
  | .start w listenAddr => startLocalServer w state listenAddr
  | .stop completed => stopLocalServer completed state
  | .status => (serverStatus (some state), state)

/-- Histories of calls. -/
def serverMachine : Machine ServerState ServerCall where
  step state call := some (call.serve state).2

end TlsPlus
