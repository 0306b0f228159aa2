/-
The task of one connection (`proxy/server/connection.rs`).

`run` serves a connection and spawns a bridge for every job that a request handler
queues.  It is modelled poll by poll: `pc` is where it stands in its loop, and
between any two of its steps handlers may queue jobs, bridges may end, and the
server may ask for shutdown.

The `select!` is biased, so its branches are polled in the order written and the
first that is ready runs its handler.  A poll that finds nothing ready moves on to
the next branch, and after the last one back to the first, since the task is then
woken and polls them all again.  A branch may also stay pending although it has
something: the runtime's budget for one poll of a task can be used up.
-/
import TlsPlus.Lib.Channel
import TlsPlus.Lib.JoinSet
import TlsPlus.Lib.Machine

namespace TlsPlus

/-- The capacity of the bridge channel. -/
def bridgeCapacity : Nat := 1

/-- Where `run` stands. -/
inductive RunPc where
  | loopTop
  | pollShutdown | pollBridge | pollConnection | pollJoin
  | drain
  | abort | joinAborted
  | returned (afterShutdown : Bool)
deriving DecidableEq, Repr

/-- The state of `run` and of what it waits for.  `queuedAtCompletion` is no variable of the
code: it notes what had been queued when the connection completed. -/
structure ConnectionState (Job : Type) where
  pc : RunPc
  bridgeChannel : Channel Job bridgeCapacity
  sendersAlive : Bool
  bridges : JoinSet Job
  connectionFinished : Bool
  bridgeChannelOpen : Bool
  shutdownChanged : Bool
  queuedAtCompletion : Option (List Job)
deriving DecidableEq

/-- What a step of `run` meets: the future it polls is ready or not, and a bridge to join is one
that has ended. -/
inductive Poll where
  | ready
  | pending
  | joins (bridge : Nat)
deriving DecidableEq, Repr

inductive ConnectionEvent (Job : Type) where
  /-- a handler's `bridge_tx.send` goes through -/
  | queue (job : Job)
  /-- the last sender is dropped -/
  | dropSenders
  /-- the shutdown flag changes, or its sender is dropped -/
  | shutdown
  | bridgeEnds (bridge : Nat) (outcome : TaskOutcome)
  /-- `run` takes a step -/
  | run (poll : Poll)
deriving DecidableEq, Repr

variable {Job : Type}

namespace ConnectionState

def init : ConnectionState Job where
  pc := .loopTop
  bridgeChannel := .empty
  sendersAlive := true
  bridges := .empty
  connectionFinished := false
  bridgeChannelOpen := true
  shutdownChanged := false
  queuedAtCompletion := none

/-- `bridges.spawn(run_bridge(job))` with the job just taken from the channel. -/
def spawnBridge (s : ConnectionState Job) (job : Job) (rest : Channel Job bridgeCapacity)
    (pc : RunPc) : ConnectionState Job :=
  { s with bridgeChannel := rest, bridges := s.bridges.spawn job, pc := pc }

/-- One step of `run`, if it can take one. -/
def runStep (s : ConnectionState Job) (poll : Poll) : Option (ConnectionState Job) :=
  match s.pc, poll with
  | .loopTop, .ready =>
    if s.connectionFinished && s.bridges.isEmpty then some { s with pc := .returned false }
    else some { s with pc := .pollShutdown }
  -- _ = shutdown.changed() => break
  | .pollShutdown, .ready => if s.shutdownChanged then some { s with pc := .abort } else none
  | .pollShutdown, .pending => some { s with pc := .pollBridge }
  -- bridge = bridge_rx.recv(), if bridge_channel_open
  | .pollBridge, .ready =>
    if s.bridgeChannelOpen then
      match s.bridgeChannel.recv with
      | some (job, rest) => some (s.spawnBridge job rest .loopTop)
      | none =>
        if s.sendersAlive then none else some { s with bridgeChannelOpen := false, pc := .loopTop }
    else none
  | .pollBridge, .pending => some { s with pc := .pollConnection }
  -- result = &mut connection, if !connection_finished
  | .pollConnection, .ready =>
    if s.connectionFinished then none
    else some { s with
      connectionFinished := true
      queuedAtCompletion := some s.bridgeChannel.sent
      pc := .drain }
  | .pollConnection, .pending => some { s with pc := .pollJoin }
  -- Some(result) = bridges.join_next(), if !bridges.is_empty()
  | .pollJoin, .joins i =>
    match s.bridges.joinNext i with
    | some bridges => some { s with bridges := bridges, pc := .loopTop }
    | none => none
  | .pollJoin, .pending => some { s with pc := .pollShutdown }
  -- while let Ok(job) = bridge_rx.try_recv()
  | .drain, .ready =>
    match s.bridgeChannel.recv with
    | some (job, rest) => some (s.spawnBridge job rest .drain)
    | none => some { s with pc := .loopTop }
  | .abort, .ready => some { s with bridges := s.bridges.abortAll, pc := .joinAborted }
  -- while bridges.join_next().await.is_some()
  | .joinAborted, .joins i =>
    match s.bridges.joinNext i with
    | some bridges => some { s with bridges := bridges }
    | none => none
  | .joinAborted, .ready =>
    if s.bridges.isEmpty then some { s with pc := .returned true } else none
  | _, _ => none

/-- `run` has returned, and dropped the receiving end of the channel. -/
def hasReturned (s : ConnectionState Job) : Bool :=
  match s.pc with
  | .returned _ => true
  | _ => false

end ConnectionState

def connectionMachine : Machine (ConnectionState Job) (ConnectionEvent Job) where
  step s event :=
    match event with
    | .queue job =>
      if s.sendersAlive && !s.hasReturned then
        match s.bridgeChannel.send job with
        | some channel => some { s with bridgeChannel := channel }
        | none => none
      else none
    | .dropSenders => some { s with sendersAlive := false }
    | .shutdown => some { s with shutdownChanged := true }
    | .bridgeEnds i outcome =>
      match s.bridges.finish i outcome with
      | some bridges => some { s with bridges := bridges }
      | none => none
    | .run poll => s.runStep poll

end TlsPlus
