/-
The task of a server, and every server of the process (`proxy/server/mod.rs`).

A start spawns a task that accepts connections until it is told to stop; it then
closes its listener, waits for its connection tasks under a grace timer, aborts
the ones that are left, and only then reports completion.  `TaskEvent` is whatever
may happen to one such task next, in whatever order the runtime chooses: the
`select!` of its accept loop is not biased.

A process starts and stops any number of servers.  A stop holds the lock of
`ServerState` from taking the channels of the task to returning, so between the
two no other call is served, while the tasks go on.
-/
import TlsPlus.Lib.JoinSet
import TlsPlus.Proxy.Server

namespace TlsPlus

/-- Where a server task stands. -/
inductive TaskPc where
  | accepting
  | left
  | draining
  | aborting
  | drained
  | ended
deriving DecidableEq, Repr

/-- A server task and what it owns.  `signalled` is whether `shutdown_rx` is ready,
`connectionShutdown` what the connection tasks see on theirs. -/
structure ServerTask (Conn : Type) where
  listenAddr : Str
  pc : TaskPc
  listening : Bool
  signalled : Bool
  connectionShutdown : Bool
  connections : JoinSet Conn
  completed : Bool
deriving DecidableEq, Repr

inductive TaskEvent (Conn : Type) where
  /-- `stop_local_server` sends on the shutdown channel -/
  | signal
  /-- the loop takes the signal and is left -/
  | takeShutdown
  | accept (result : Except Str Conn)
  | connectionEnds (connection : Nat) (outcome : TaskOutcome)
  /-- `connections.join_next()` hands a connection task over -/
  | join (connection : Nat)
  | dropListener
  | graceExpires
  /-- `connections.join_next()` finds nothing left -/
  | nothingLeft
  | complete
deriving DecidableEq

variable {Conn : Type}

namespace ServerTask

def init (listenAddr : Str) : ServerTask Conn where
  listenAddr := listenAddr
  pc := .accepting
  listening := true
  signalled := false
  connectionShutdown := false
  connections := .empty
  completed := false

/-- The task is at a `connections.join_next()`. -/
def joining (task : ServerTask Conn) : Bool :=
  match task.pc with
  | .accepting => true
  | .draining => true
  | .aborting => true
  | _ => false

def step (task : ServerTask Conn) : TaskEvent Conn → Option (ServerTask Conn)
  | .signal => some { task with signalled := true }
  | .takeShutdown =>
    if task.pc = .accepting ∧ task.signalled = true then
      some { task with pc := .left, connectionShutdown := true }
    else none
  | .accept result =>
    if task.pc = .accepting then
      match result with
      | .ok connection => some { task with connections := task.connections.spawn connection }
      -- the error is printed and the loop goes on
      | .error _ => some task
    else none
  | .connectionEnds i outcome =>
    (task.connections.finish i outcome).map fun connections =>
      { task with connections := connections }
  | .join i =>
    if task.joining then
      (task.connections.joinNext i).map fun connections => { task with connections := connections }
    else none
  | .dropListener =>
    if task.pc = .left then some { task with pc := .draining, listening := false } else none
  | .graceExpires =>
    -- the drain is polled before the timer, so a set with nothing left does not time out
    if task.pc = .draining ∧ task.connections.isEmpty = false then
      some { task with pc := .aborting, connections := task.connections.abortAll }
    else none
  | .nothingLeft =>
    if (task.pc = .draining ∨ task.pc = .aborting) ∧ task.connections.isEmpty = true then
      some { task with pc := .drained }
    else none
  | .complete =>
    if task.pc = .drained then some { task with pc := .ended, completed := true } else none

end ServerTask

def serverTaskMachine : Machine (ServerTask Conn) (TaskEvent Conn) where
  step task event := task.step event

/-! ### The process -/

/-- The server state, every server task ever spawned, the task whose completion a stop waits
for, and what stops have returned for which task. -/
structure Process (Conn : Type) where
  server : ServerState
  tasks : List (ServerTask Conn)
  stopping : Option Nat
  stops : List (Option Nat × ServerStatus)

inductive ProcessEvent (Conn : Type) where
  | start (w : StartWorld) (listenAddr : Str)
  /-- a stop finds the channels of a task and sends the signal -/
  | stop (task : Nat)
  /-- a stop finds no channels -/
  | stopNothing
  /-- `recv_timeout` receives the completion -/
  | receiveCompletion
  | stopTimesOut
  | task (number : Nat) (event : TaskEvent Conn)

namespace Process

def init : Process Conn := ⟨.init, [], none, []⟩

/-- The task that a start has spawned, if it returned `status`. -/
def spawned (p : Process Conn) (status : ServerStatus) : List (ServerTask Conn) :=
  if p.server.running then [] else (status.listenAddr.map ServerTask.init).toList

/-- A stop returns, and gives the lock back. -/
def stopReturns (p : Process Conn) (task : Option Nat) (completed : Bool) : Process Conn :=
  { p with
    server := (stopLocalServer completed p.server).2
    stopping := none
    stops := p.stops ++ [(task, (stopLocalServer completed p.server).1)] }

def stepTask (p : Process Conn) (number : Nat) (event : TaskEvent Conn) :
    Option (Process Conn) :=
  match p.tasks[number]? with
  | some task => (task.step event).map fun task' => { p with tasks := p.tasks.set number task' }
  | none => none

def step (p : Process Conn) : ProcessEvent Conn → Option (Process Conn)
  | .start w listenAddr =>
    if p.stopping = none then
      let started := startLocalServer { w with task := p.tasks.length } p.server listenAddr
      some { p with server := started.2, tasks := p.tasks ++ p.spawned started.1 }
    else none
  | .stop number =>
    if p.stopping = none ∧ p.server.shutdown = some ⟨number⟩ then
      (p.stepTask number .signal).map fun p' => { p' with stopping := some number }
    else none
  | .stopNothing =>
    if p.stopping = none ∧ p.server.shutdown = none then some (p.stopReturns none false)
    else none
  | .receiveCompletion =>
    match p.stopping with
    | some number =>
      match p.tasks[number]? with
      | some task => if task.completed then some (p.stopReturns (some number) true) else none
      | none => none
    | none => none
  | .stopTimesOut =>
    match p.stopping with
    | some number => some (p.stopReturns (some number) false)
    | none => none
  -- the channel's only sender is the stop's
  | .task _ .signal => none
  | .task number event => p.stepTask number event

end Process

def processMachine : Machine (Process Conn) (ProcessEvent Conn) where
  step p event := p.step event

end TlsPlus
