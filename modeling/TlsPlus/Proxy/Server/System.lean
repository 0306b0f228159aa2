/-
A process with its servers and the tasks of their connections.

`Process` knows of a connection's task how far it has got, and nothing of what it
does; `ConnectionState` knows of its server the flag it is told to stop by.  Here
the two are put together.  A server that leaves its accept loop sets the flag of all
its connections at once.  A connection's task ends by itself when `run` has returned;
one that panics, or is aborted when the grace has expired, is dropped wherever `run`
stands, and the set of its bridges with it, which aborts them.
-/
import TlsPlus.Proxy.Server.Connection
import TlsPlus.Proxy.Server.Task

namespace TlsPlus

variable {Conn Job : Type}

/-- The process, and for each server task and each connection it accepted the state of `run`. -/
structure System (Conn Job : Type) where
  process : Process Conn
  connections : Nat → Nat → ConnectionState Job

inductive SystemEvent (Conn Job : Type) where
  | process (event : ProcessEvent Conn)
  /-- something happens in or to the task of a connection of this server -/
  | connection (server connection : Nat) (event : ConnectionEvent Job)

namespace ConnectionState

/-- How the task can end from here. -/
def canEnd (c : ConnectionState Job) (outcome : TaskOutcome) : Bool :=
  if c.hasReturned then outcome = .completed
  else outcome = .panicked || outcome = .cancelled

/-- The task is dropped, and the bridges with it: dropping a `JoinSet` aborts its tasks. -/
def drop (c : ConnectionState Job) : ConnectionState Job :=
  { c with bridges := c.bridges.abortAll }

/-- What its server's task does to the connection at this position. -/
def afterTask (c : ConnectionState Job) (connection : Nat) : TaskEvent Conn → ConnectionState Job
  -- connection_shutdown_tx.send(true)
  | .takeShutdown => { c with shutdownChanged := true }
  | .connectionEnds i outcome => if i = connection ∧ outcome ≠ .completed then c.drop else c
  | _ => c

def afterProcess (c : ConnectionState Job) (server connection : Nat) :
    ProcessEvent Conn → ConnectionState Job
  | .task number event => if number = server then c.afterTask connection event else c
  | _ => c

end ConnectionState

namespace System

def init : System Conn Job := ⟨.init, fun _ _ => .init⟩

/-- The task of a connection, as its server knows it. -/
def connectionTask (s : System Conn Job) (server connection : Nat) : Option (SpawnedTask Conn) :=
  (s.process.tasks[server]?).bind fun task => task.connections.tasks[connection]?

/-- Whether this may happen to a connection; what is done by its task only while that is live. -/
def enabled (s : System Conn Job) (server connection : Nat) : ConnectionEvent Job → Bool
  -- the flag is the server's
  | .shutdown => false
  -- a bridge may outlive the task that spawned it
  | .bridgeEnds _ _ => (s.connectionTask server connection).isSome
  | .dropSenders => (s.connectionTask server connection).isSome
  | .queue _ => (s.connectionTask server connection).any fun task => task.phase.outcome.isNone
  | .run _ => (s.connectionTask server connection).any fun task => task.phase.outcome.isNone

/-- The connection's task can end as the event says, if it says so. -/
def allows (s : System Conn Job) : ProcessEvent Conn → Bool
  | .task number (.connectionEnds i outcome) => (s.connections number i).canEnd outcome
  | _ => true

def setConnection (s : System Conn Job) (server connection : Nat) (c : ConnectionState Job) :
    System Conn Job :=
  { s with connections := fun number i =>
      if number = server ∧ i = connection then c else s.connections number i }

def step (s : System Conn Job) : SystemEvent Conn Job → Option (System Conn Job)
  | .process event =>
    if s.allows event then
      (s.process.step event).map fun process =>
        ⟨process, fun number i => (s.connections number i).afterProcess number i event⟩
    else none
  | .connection server connection event =>
    if s.enabled server connection event then
      (connectionMachine.step (s.connections server connection) event).map
        (s.setConnection server connection)
    else none

end System

def systemMachine : Machine (System Conn Job) (SystemEvent Conn Job) where
  step s event := s.step event

end TlsPlus
