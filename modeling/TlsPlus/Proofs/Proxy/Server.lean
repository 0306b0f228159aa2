/-
The life cycle of the local server.

`ServerState` has three fields that must move together.  What it is for is said by
`Lifecycle`: the server is stopped, or it runs at an address, and there is nothing
else to know.  The fields refine that: along every history of calls they are
`Lifecycle.fields` of the state an abstract server would be in, and so the three
fields agree wherever a history ends (`lifecycle_simulates`), whatever the outside
world answers.

Only loopback addresses are asked for, and what is recorded is what the socket then
reports.  So where the server runs is a loopback address if a socket bound to one
reports one; its port and its scope are the socket's to choose.
-/
import TlsPlus.Proxy.Server

namespace TlsPlus

open Text

/-! ### The abstract server -/

/-- Stopped, or running at an address with a server task. -/
inductive Lifecycle where
  | stopped
  | running (addr : SocketAddr) (task : Nat)

/-- The address a start opens, if nothing stands in its way. -/
def openedBy (w : StartWorld) (listenAddr : Str) : Option SocketAddr :=
  match w.parseAddr listenAddr, w.runtime with
  | .ok addr, .ok () =>
    if addr.ip.isLoopback then (w.bind addr).toOption else none
  | _, _ => none

def Lifecycle.next (server : Lifecycle) (call : ServerCall) : Lifecycle :=
  match call, server with
  | .start w listenAddr, .stopped =>
    match openedBy w listenAddr with
    | some addr => .running addr w.task
    | none => .stopped
  | .start _ _, .running addr task => .running addr task
  | .stop _, _ => .stopped
  | .status, server => server

def lifecycleMachine : Machine Lifecycle ServerCall where
  step server call := some (server.next call)

/-- The fields that stand for a state of the server. -/
def Lifecycle.fields : Lifecycle → ServerState
  | .stopped => ⟨false, none, none⟩
  | .running addr task => ⟨true, some addr.display, some ⟨task⟩⟩

/-- If the server runs, then on a loopback address. -/
def Lifecycle.OnLoopback : Lifecycle → Prop
  | .stopped => True
  | .running addr _ => addr.ip.isLoopback = true

/-! ### What a start can do -/

/-- A socket that is bound to a loopback address reports a loopback address. -/
def ServerCall.BindsLoopback : ServerCall → Prop
  | .start w _ => ∀ addr bound, addr.ip.isLoopback = true → w.bind addr = .ok bound →
      bound.ip.isLoopback = true
  | .stop _ => True
  | .status => True

/-- An address is opened by binding the loopback address that was asked for. -/
theorem openedBy_eq_some {w : StartWorld} {listenAddr : Str} {bound : SocketAddr} :
    openedBy w listenAddr = some bound ↔ ∃ addr, w.parseAddr listenAddr = .ok addr ∧
      w.runtime = .ok () ∧ addr.ip.isLoopback = true ∧ w.bind addr = .ok bound := by
  unfold openedBy
  cases w.parseAddr listenAddr with
  | error e => simp
  | ok addr =>
      cases w.runtime with
      | error e => simp
      | ok _ => cases hbind : w.bind addr <;> simp [hbind, Except.toOption]

theorem startLocalServer_running (w : StartWorld) {state : ServerState} (listenAddr : Str)
    (h : state.running = true) :
    startLocalServer w state listenAddr
      = (⟨true, state.listenAddr, "Server is already running"⟩, state) := by
  unfold startLocalServer
  rw [if_pos h]

/-- A start of a stopped server is refused and changes nothing, or opens an address. -/
theorem startLocalServer_cases (w : StartWorld) {state : ServerState} (listenAddr : Str)
    (h : state.running = false) :
    (openedBy w listenAddr = none ∧
      ∃ message, startLocalServer w state listenAddr = (refusedStart message, state)) ∨
    ∃ bound message, openedBy w listenAddr = some bound ∧
      startLocalServer w state listenAddr
        = (⟨true, some bound.display, message⟩, ⟨true, some bound.display, some ⟨w.task⟩⟩) := by
  unfold startLocalServer openedBy
  rw [h]
  cases w.parseAddr listenAddr with
  | error e => exact Or.inl ⟨rfl, _, rfl⟩
  | ok addr =>
      cases hloopback : addr.ip.isLoopback with
      | false =>
          refine Or.inl ⟨?_, _, by simp only [hloopback]; rfl⟩
          cases w.runtime <;> simp [hloopback]
      | true =>
          cases w.runtime with
          | error e => exact Or.inl ⟨rfl, e, by simp [hloopback]⟩
          | ok _ =>
              cases hbind : w.bind addr with
              | error e =>
                  exact Or.inl ⟨by simp [hloopback, hbind, Except.toOption],
                    "failed to bind " ++ addr.display ++ ": " ++ e, by simp [hloopback, hbind]⟩
              | ok bound =>
                  exact Or.inr ⟨bound, "Local HTTP forward proxy started",
                    by simp [hloopback, hbind, Except.toOption], by simp [hloopback, hbind]⟩

theorem loopback_of_openedBy {w : StartWorld} {listenAddr : Str} {bound : SocketAddr}
    (hbinds : (ServerCall.start w listenAddr).BindsLoopback)
    (hopened : openedBy w listenAddr = some bound) : bound.ip.isLoopback = true := by
  obtain ⟨addr, -, -, hloopback, hbind⟩ := openedBy_eq_some.mp hopened
  exact hbinds addr bound hloopback hbind

theorem stopLocalServer_snd (completed : Bool) (state : ServerState) :
    (stopLocalServer completed state).2 = Lifecycle.stopped.fields := by
  unfold stopLocalServer
  cases state.shutdown <;> rfl

theorem stopLocalServer_fst (completed : Bool) (state : ServerState) :
    (stopLocalServer completed state).1.running = false ∧
      (stopLocalServer completed state).1.listenAddr = state.listenAddr := by
  unfold stopLocalServer
  cases state.shutdown <;> exact ⟨rfl, rfl⟩

/-! ### Refinement -/

/-- **The fields move as the abstract server does.** -/
theorem serve_fields (server : Lifecycle) (call : ServerCall) :
    (call.serve server.fields).2 = (server.next call).fields := by
  cases call with
  | stop completed => exact stopLocalServer_snd completed server.fields
  | status => rfl
  | start w listenAddr =>
      show (startLocalServer w server.fields listenAddr).2 = _
      cases server with
      | running addr task => rw [startLocalServer_running w listenAddr rfl]; rfl
      | stopped =>
          have hstopped : Lifecycle.stopped.fields.running = false := rfl
          rcases startLocalServer_cases w listenAddr hstopped with
            ⟨hopened, message, hstart⟩ | ⟨bound, message, hopened, hstart⟩
          · rw [hstart]
            simp only [Lifecycle.next, hopened]
          · rw [hstart]
            simp only [Lifecycle.next, hopened]
            rfl

theorem lifecycle_simulates : Machine.Simulation serverMachine lifecycleMachine
    (fun _ => True) (fun state server => state = server.fields) where
  step := by
    rintro state server call state' rfl - hstep
    have hnext : state' = (server.next call).fields := by
      rw [← serve_fields server call]
      exact (Option.some.inj hstep).symm
    exact ⟨server.next call, rfl, hnext⟩

/-- Every history ends in fields that stand for the state the abstract server is in. -/
theorem exists_lifecycle {calls : List ServerCall} {state : ServerState}
    (hrun : serverMachine.run .init calls = some state) :
    ∃ server : Lifecycle, lifecycleMachine.run .stopped calls = some server ∧
      state = server.fields :=
  lifecycle_simulates.run (fun _ _ => trivial) rfl hrun

theorem Lifecycle.OnLoopback.next {server : Lifecycle} (h : server.OnLoopback) {call : ServerCall}
    (hbinds : call.BindsLoopback) : (server.next call).OnLoopback := by
  cases call with
  | stop completed => trivial
  | status => exact h
  | start w listenAddr =>
      cases server with
      | running addr task => exact h
      | stopped =>
          simp only [Lifecycle.next]
          cases hopened : openedBy w listenAddr with
          | none => trivial
          | some bound => exact loopback_of_openedBy hbinds hopened

theorem onLoopback_of_run {calls : List ServerCall} {server : Lifecycle}
    (hbinds : ∀ call ∈ calls, call.BindsLoopback)
    (hrun : lifecycleMachine.run .stopped calls = some server) : server.OnLoopback := by
  have hstopped : Lifecycle.stopped.OnLoopback := trivial
  refine Machine.run_invariant_of (P := Lifecycle.OnLoopback) (fun server call server' h hcall
    hstep => ?_) hbinds hstopped hrun
  rw [← Option.some.inj hstep]
  exact h.next hcall

/-! ### The invariant, and what each call promises -/

/-- The server runs exactly if it has an address and exactly if it can be shut down. -/
structure ServerState.Consistent (state : ServerState) : Prop where
  listenAddr : state.running = true ↔ state.listenAddr.isSome = true
  shutdown : state.running = true ↔ state.shutdown.isSome = true

/-- The recorded address, if there is one, is a loopback address. -/
def ServerState.OnLoopback (state : ServerState) : Prop :=
  ∀ text, state.listenAddr = some text →
    ∃ addr : SocketAddr, addr.ip.isLoopback = true ∧ text = addr.display

theorem Lifecycle.consistent (server : Lifecycle) : server.fields.Consistent := by
  cases server with
  | stopped => exact ⟨by simp [fields], by simp [fields]⟩
  | running addr task => exact ⟨by simp [fields], by simp [fields]⟩

theorem Lifecycle.OnLoopback.fields {server : Lifecycle} (h : server.OnLoopback) :
    server.fields.OnLoopback := by
  intro text htext
  cases server with
  | stopped => exact absurd htext (by simp [Lifecycle.fields])
  | running addr task => exact ⟨addr, h, (Option.some.inj htext).symm⟩

/-- What a start promises about the status it returns and the state after it. -/
structure StartContract (w : StartWorld) (listenAddr : Str) (state : ServerState)
    (status : ServerStatus) (after : ServerState) : Prop where
  address : status.listenAddr = after.listenAddr
  already : state.running = true →
    after = state ∧ status.running = true ∧ status.listenAddr = state.listenAddr
  refused : status.running = false → after = state
  started : state.running = false → status.running = true →
    ∃ addr bound : SocketAddr, w.parseAddr listenAddr = .ok addr ∧ addr.ip.isLoopback = true ∧
      w.bind addr = .ok bound ∧ after = ⟨true, some bound.display, some ⟨w.task⟩⟩

/-- What a call promises. -/
def ServerCall.Contract (call : ServerCall) (state : ServerState) (status : ServerStatus)
    (after : ServerState) : Prop :=
  status.running = after.running ∧
  match call with
  | .start w listenAddr => StartContract w listenAddr state status after
  | .stop _ => after = ⟨false, none, none⟩ ∧ status.listenAddr = state.listenAddr
  | .status => after = state ∧ status.listenAddr = after.listenAddr

theorem contract_start (w : StartWorld) (listenAddr : Str) (server : Lifecycle) :
    (ServerCall.start w listenAddr).Contract server.fields
      (startLocalServer w server.fields listenAddr).1
      (startLocalServer w server.fields listenAddr).2 := by
  cases server with
  | running addr task =>
      rw [startLocalServer_running w listenAddr rfl]
      refine ⟨rfl, rfl, fun _ => ⟨rfl, rfl, rfl⟩, fun _ => rfl, fun hstopped => ?_⟩
      exact absurd hstopped (by simp [Lifecycle.fields])
  | stopped =>
      have hstopped : Lifecycle.stopped.fields.running = false := rfl
      rcases startLocalServer_cases w listenAddr hstopped with
        ⟨-, message, hstart⟩ | ⟨bound, message, hopened, hstart⟩
      · rw [hstart]
        refine ⟨rfl, rfl, fun hrunning => ?_, fun _ => rfl, fun _ hrunning => ?_⟩
        · exact absurd hrunning (by simp [Lifecycle.fields])
        · exact absurd hrunning (by simp [refusedStart])
      · rw [hstart]
        obtain ⟨addr, hparse, -, hloopback, hbind⟩ := openedBy_eq_some.mp hopened
        refine ⟨rfl, rfl, fun hrunning => ?_, fun hrefused => ?_, fun _ _ => ?_⟩
        · exact absurd hrunning (by simp [Lifecycle.fields])
        · exact absurd hrefused (by simp)
        · exact ⟨addr, bound, hparse, hloopback, hbind, rfl⟩

theorem contract_serve (call : ServerCall) (server : Lifecycle) :
    call.Contract server.fields (call.serve server.fields).1 (call.serve server.fields).2 := by
  cases call with
  | start w listenAddr => exact contract_start w listenAddr server
  | status => exact ⟨rfl, rfl, rfl⟩
  | stop completed =>
      obtain ⟨hrunning, haddr⟩ := stopLocalServer_fst completed server.fields
      have hafter := stopLocalServer_snd completed server.fields
      exact ⟨hrunning.trans (congrArg ServerState.running hafter).symm, hafter, haddr⟩

/-- A call on a stopped server leaves it stopped or on the address that it binds. -/
theorem onLoopback_serve {server : Lifecycle} (hstopped : server.fields.running = false)
    {call : ServerCall} (hbinds : call.BindsLoopback) :
    (call.serve server.fields).2.OnLoopback := by
  rw [serve_fields]
  refine Lifecycle.OnLoopback.fields (Lifecycle.OnLoopback.next ?_ hbinds)
  cases server with
  | stopped => trivial
  | running addr task => exact absurd hstopped (by simp [Lifecycle.fields])

/-- **The life cycle.**  After every history of calls the three fields agree, and every further call
keeps its contract, whatever the outside world answers.  If a socket bound to a loopback address
reports one, at the starts of the history, the recorded address is a loopback address; and if it
does at a start of a stopped server, the address that this one records. -/
theorem server_lifecycle {calls : List ServerCall} {state : ServerState}
    (hrun : serverMachine.run .init calls = some state) :
    state.Consistent ∧
    (∀ call : ServerCall, call.Contract state (call.serve state).1 (call.serve state).2) ∧
    ((∀ call ∈ calls, call.BindsLoopback) → state.OnLoopback) ∧
    (state.running = false → ∀ call : ServerCall, call.BindsLoopback →
      (call.serve state).2.OnLoopback) := by
  obtain ⟨server, hserver, rfl⟩ := exists_lifecycle hrun
  exact ⟨server.consistent, fun call => contract_serve call server,
    fun hbinds => (onLoopback_of_run hbinds hserver).fields,
    fun hstopped call hbinds => onLoopback_serve hstopped hbinds⟩

/-! ### A history -/

/-- A machine whose sockets accept every address, on port 8080 if none is asked for. -/
def sampleStartWorld (task : Nat) : StartWorld where
  parseAddr text :=
    if text = "127.0.0.1:0" then .ok ⟨.v4 127 0 0 1, 0⟩
    else if text = "0.0.0.0:80" then .ok ⟨.v4 0 0 0 0, 80⟩
    else .error "invalid socket address syntax"
  runtime := .ok ()
  bind addr := .ok ⟨addr.ip, if addr.port = 0 then 8080 else addr.port⟩
  task := task

/-- A refused start, a start, another one while it runs, a stop that times out, a stop of
nothing, and a start again. -/
def sampleHistory : List ServerCall :=
  [.start (sampleStartWorld 1) "0.0.0.0:80", .start (sampleStartWorld 2) "127.0.0.1:0",
   .start (sampleStartWorld 3) "127.0.0.1:0", .status, .stop false, .stop true,
   .start (sampleStartWorld 4) "127.0.0.1:0"]

theorem server_lifecycle_history :
    serverMachine.run .init sampleHistory
        = some ⟨true, some "127.0.0.1:8080", some ⟨4⟩⟩ ∧
      ServerState.Consistent ⟨true, some "127.0.0.1:8080", some ⟨4⟩⟩ ∧
      ServerState.OnLoopback ⟨true, some "127.0.0.1:8080", some ⟨4⟩⟩ := by
  have hbind : ∀ task listenAddr,
      (ServerCall.start (sampleStartWorld task) listenAddr).BindsLoopback := by
    intro task listenAddr addr bound hloopback hbound
    rw [← Except.ok.inj hbound]
    exact hloopback
  have hbinds : ∀ call ∈ sampleHistory, call.BindsLoopback := by
    intro call hcall
    simp only [sampleHistory, List.mem_cons, List.not_mem_nil, or_false] at hcall
    rcases hcall with rfl | rfl | rfl | rfl | rfl | rfl | rfl
    · exact hbind 1 _
    · exact hbind 2 _
    · exact hbind 3 _
    · trivial
    · trivial
    · trivial
    · exact hbind 4 _
  have hrun : serverMachine.run .init sampleHistory
      = some ⟨true, some "127.0.0.1:8080", some ⟨4⟩⟩ := by decide
  obtain ⟨hconsistent, -, hloopback, -⟩ := server_lifecycle hrun
  exact ⟨hrun, hconsistent, hloopback hbinds⟩

end TlsPlus
