/-
Unloading and the auto-start thread.

The handler stops the server once, and the thread does not look whether it has:
a start that the thread makes after the stop is a start like any other.  So a
server is left behind exactly if one of the thread's starts after the stop is
granted (`unload_final_iff`), and what grants a start is up to the address and to
the socket alone, since the server is stopped by then.
-/
import TlsPlus.Extension.AutoStart
import TlsPlus.Proofs.Proxy.Server

namespace TlsPlus

/-! ### What a step of the thread can do -/

inductive AutoStartMove (w : Option StartWorld) (s : ExtensionState) : ExtensionState → Prop
  | wakes (hpc : s.autoStart = .sleeping) :
      AutoStartMove w s { s with autoStart := .starting s.preferences.serverListenAddr }
  | starts (listenAddr : Str) (hpc : s.autoStart = .starting listenAddr) :
      AutoStartMove w s { s with
        server := (coreStartServer w s.server listenAddr).2
        autoStart := .started (coreStartServer w s.server listenAddr).1 }
  | persists (status : Option ServerStatus) (hpc : s.autoStart = .started status)
      (hrunning : reportsRunning status = true) :
      AutoStartMove w s { s with
        preferences := persistLiveAddress s.preferences status
        autoStart := .refreshing }
  | fallsBack (status : Option ServerStatus) (hpc : s.autoStart = .started status)
      (hrunning : ¬reportsRunning status = true) :
      AutoStartMove w s { s with autoStart := .retrying firstFallbackPort }
  | retries (port : Nat) (hpc : s.autoStart = .retrying port) :
      AutoStartMove w s { s with
        server := (coreStartServer w s.server (fallbackAddress port)).2
        autoStart := .retried port (coreStartServer w s.server (fallbackAddress port)).1 }
  | persistsRetry (port : Nat) (status : Option ServerStatus)
      (hpc : s.autoStart = .retried port status) (hrunning : reportsRunning status = true) :
      AutoStartMove w s { s with
        preferences := s.preferences.setServerListenAddr
          ((status.bind ServerStatus.listenAddr).getD (fallbackAddress port))
        autoStart := .refreshing }
  | retryFails (port : Nat) (status : Option ServerStatus)
      (hpc : s.autoStart = .retried port status) (hrunning : ¬reportsRunning status = true)
      (next : AutoStartPc)
      (hnext : next = if port < lastFallbackPort then .retrying (port + 1) else .refreshing) :
      AutoStartMove w s { s with autoStart := next }
  | ends (hpc : s.autoStart = .refreshing) : AutoStartMove w s { s with autoStart := .ended }

theorem autoStartMove_of_step {s s' : ExtensionState} {w : Option StartWorld}
    (h : s.autoStartStep w = some s') : AutoStartMove w s s' := by
  unfold ExtensionState.autoStartStep at h
  cases hpc : s.autoStart with
  | sleeping =>
      rw [hpc] at h
      rw [← Option.some.inj h]
      exact .wakes hpc
  | starting listenAddr =>
      rw [hpc] at h
      rw [← Option.some.inj h]
      exact .starts listenAddr hpc
  | started status =>
      rw [hpc] at h
      simp only at h
      by_cases hrunning : reportsRunning status = true
      · rw [if_pos hrunning] at h
        rw [← Option.some.inj h]
        exact .persists status hpc hrunning
      · rw [if_neg hrunning] at h
        rw [← Option.some.inj h]
        exact .fallsBack status hpc hrunning
  | retrying port =>
      rw [hpc] at h
      rw [← Option.some.inj h]
      exact .retries port hpc
  | retried port status =>
      rw [hpc] at h
      simp only at h
      by_cases hrunning : reportsRunning status = true
      · rw [if_pos hrunning] at h
        rw [← Option.some.inj h]
        exact .persistsRetry port status hpc hrunning
      · rw [if_neg hrunning] at h
        by_cases hnext : port < lastFallbackPort
        · rw [if_pos hnext] at h
          rw [← Option.some.inj h]
          exact .retryFails port status hpc hrunning _ (if_pos hnext).symm
        · rw [if_neg hnext] at h
          rw [← Option.some.inj h]
          exact .retryFails port status hpc hrunning _ (if_neg hnext).symm
  | refreshing =>
      rw [hpc] at h
      rw [← Option.some.inj h]
      exact .ends hpc
  | ended =>
      rw [hpc] at h
      exact absurd h (by simp)

/-- The address of the start that the thread is about to make. -/
def AutoStartPc.address : AutoStartPc → Option Str
  | .starting listenAddr => some listenAddr
  | .retrying port => some (fallbackAddress port)
  | _ => none

/-- A step of the thread is a start on its address, or leaves the server alone. -/
theorem server_of_autoStartStep {s s' : ExtensionState} {w : Option StartWorld}
    (h : s.autoStartStep w = some s') :
    (∃ listenAddr, s.autoStart.address = some listenAddr ∧
      s'.server = (coreStartServer w s.server listenAddr).2) ∨
    (s.autoStart.address = none ∧ s'.server = s.server) := by
  cases autoStartMove_of_step h with
  | starts listenAddr hpc =>
      exact Or.inl ⟨listenAddr, congrArg AutoStartPc.address hpc, rfl⟩
  | retries port hpc =>
      exact Or.inl ⟨fallbackAddress port, congrArg AutoStartPc.address hpc, rfl⟩
  | wakes hpc
  | persists _ hpc
  | fallsBack _ hpc
  | persistsRetry _ _ hpc
  | retryFails _ _ hpc
  | ends hpc => exact Or.inr ⟨congrArg AutoStartPc.address hpc, rfl⟩

/-- A start of a stopped server leaves it stopped exactly if it opens no address. -/
theorem coreStartServer_stopped {w : Option StartWorld} {server : ServerState} {listenAddr : Str}
    (h : server.running = false) :
    (coreStartServer w server listenAddr).2.running = false ↔
      ∀ world, w = some world → openedBy world listenAddr = none := by
  cases w with
  | none => exact ⟨fun _ world hworld => absurd hworld (by simp), fun _ => h⟩
  | some world =>
      have hsame : (coreStartServer (some world) server listenAddr).2
          = (startLocalServer world server listenAddr).2 := rfl
      rw [hsame]
      rcases startLocalServer_cases world listenAddr h with
        ⟨hopened, message, hstart⟩ | ⟨bound, message, hopened, hstart⟩
      · rw [hstart]
        exact ⟨fun _ w' hw' => Option.some.inj hw' ▸ hopened, fun _ => h⟩
      · rw [hstart]
        refine ⟨fun hfalse => absurd hfalse (by simp), fun hall => ?_⟩
        rw [hall world rfl] at hopened
        exact absurd hopened (by simp)

/-! ### Nothing is left behind -/

/-- Once the handler has run, no server runs. -/
def LoadedExtension.StaysStopped (s : LoadedExtension) : Prop :=
  s.unloaded = true → s.state.server.running = false

/-- If the handler has run, the thread's next step is not a start that opens an address. -/
def ExtensionEvent.OpensNothing (s : LoadedExtension) : ExtensionEvent → Prop
  | .autoStart w => s.unloaded = true → ∀ listenAddr world,
      s.state.autoStart.address = some listenAddr → w = some world →
        openedBy world listenAddr = none
  | .unload _ => True

theorem staysStopped_step (s : LoadedExtension) (event : ExtensionEvent) (s' : LoadedExtension)
    (hs : s.StaysStopped) (h : extensionMachine.step s event = some s') :
    s'.StaysStopped ↔ event.OpensNothing s := by
  cases event with
  | unload completed =>
      simp only [extensionMachine] at h
      split at h
      · exact absurd h (by simp)
      · rw [← Option.some.inj h]
        refine ⟨fun _ => trivial, fun _ _ => ?_⟩
        show (stopLocalServer completed s.state.server).2.running = false
        rw [stopLocalServer_snd]
        rfl
  | autoStart w =>
      obtain ⟨state, hstep, rfl⟩ := Option.map_eq_some_iff.mp h
      show (s.unloaded = true → state.server.running = false) ↔ (s.unloaded = true → _)
      refine forall_congr' fun hunloaded => ?_
      have hstopped := hs hunloaded
      rcases server_of_autoStartStep hstep with ⟨listenAddr, haddr, hserver⟩ | ⟨haddr, hserver⟩
      · rw [hserver, coreStartServer_stopped hstopped, haddr]
        constructor
        · intro hall addr world hsame hworld
          rw [← Option.some.inj hsame]
          exact hall world hworld
        · intro hall world hworld
          exact hall listenAddr world rfl hworld
      · rw [hserver, haddr]
        exact ⟨fun _ _ _ hsame => absurd hsame (by simp), fun _ => hstopped⟩

/-- **Unloading leaves no server behind exactly if the thread opens nothing after it**: along a
run no server runs once the handler has run if and only if none of the thread's starts made after
the handler opens an address. -/
theorem unload_final_iff {preferences : Preferences} {events : List ExtensionEvent}
    {s : LoadedExtension}
    (hrun : extensionMachine.run (.init preferences) events = some s) :
    extensionMachine.Along LoadedExtension.StaysStopped (.init preferences) events ↔
      extensionMachine.Meets (fun s event => event.OpensNothing s) (.init preferences) events := by
  have hinit : (LoadedExtension.init preferences).StaysStopped :=
    fun h => absurd h Bool.false_ne_true
  exact Machine.along_iff_meets staysStopped_step hinit hrun

/-- Unloading as the last step of all is safe, whatever the thread has done. -/
theorem opensNothing_of_unload_last (completed : Bool) :
    ∀ (worlds : List (Option StartWorld)) (s : LoadedExtension), s.unloaded = false →
      extensionMachine.Meets (fun s event => event.OpensNothing s) s
        (worlds.map ExtensionEvent.autoStart ++ [.unload completed]) := by
  intro worlds
  induction worlds with
  | nil => exact fun s _ => ⟨trivial, fun _ _ => trivial⟩
  | cons w rest ih =>
      intro s hloaded
      refine ⟨fun hunloaded => ?_, fun s' hstep => ?_⟩
      · rw [hloaded] at hunloaded
        exact absurd hunloaded Bool.false_ne_true
      · obtain ⟨state, -, rfl⟩ := Option.map_eq_some_iff.mp hstep
        exact ih _ hloaded

/-! ### Two orders -/

/-- A socket layer in which the configured port is taken. -/
def busyPortWorld : StartWorld where
  parseAddr text :=
    if text = "127.0.0.1:43117" then .ok ⟨.v4 127 0 0 1, 43117⟩
    else if text = "127.0.0.1:43118" then .ok ⟨.v4 127 0 0 1, 43118⟩
    else .error "invalid socket address syntax"
  runtime := .ok ()
  bind addr := if addr.port = 43117 then .error "address already in use" else .ok addr
  task := 0

/-- The thread finds the configured port taken, opens the first fallback port and ends; then the
extension is unloaded. -/
def unloadLast : List ExtensionEvent :=
  [.autoStart none, .autoStart (some busyPortWorld), .autoStart none,
   .autoStart (some busyPortWorld), .autoStart none, .autoStart none, .unload true]

/-- The extension is unloaded when the first start has been refused; then the thread goes on. -/
def unloadBetween : List ExtensionEvent :=
  [.autoStart none, .autoStart (some busyPortWorld), .unload true, .autoStart none,
   .autoStart (some busyPortWorld), .autoStart none, .autoStart none]

theorem unload_final_iff_last :
    ∃ s, extensionMachine.run (.init .empty) unloadLast = some s ∧
      s.state.autoStart = .ended ∧ s.state.preferences.serverListenAddr = "127.0.0.1:43118" ∧
      extensionMachine.Along LoadedExtension.StaysStopped (.init .empty) unloadLast := by
  have hends : (extensionMachine.run (.init .empty) unloadLast).map (fun s =>
      (s.state.autoStart, s.state.preferences.serverListenAddr))
      = some (AutoStartPc.ended, ("127.0.0.1:43118" : Str)) := by decide
  obtain ⟨s, hrun, hs⟩ := Option.map_eq_some_iff.mp hends
  rw [Prod.mk.injEq] at hs
  exact ⟨s, hrun, hs.1, hs.2, (unload_final_iff hrun).mpr
    (opensNothing_of_unload_last true [none, some busyPortWorld, none, some busyPortWorld, none,
      none] (.init .empty) rfl)⟩

/-- **A server is left behind**: the handler has run and the thread has ended, and the server
runs on the fallback port. -/
theorem server_left_behind :
    ∃ s, extensionMachine.run (.init .empty) unloadBetween = some s ∧
      s.unloaded = true ∧ s.state.autoStart = .ended ∧ s.state.server.running = true := by
  have hends : (extensionMachine.run (.init .empty) unloadBetween).map (fun s =>
      (s.unloaded, s.state.autoStart, s.state.server.running))
      = some (true, AutoStartPc.ended, true) := by decide
  obtain ⟨s, hrun, hs⟩ := Option.map_eq_some_iff.mp hends
  simp only [Prod.mk.injEq] at hs
  exact ⟨s, hrun, hs⟩

end TlsPlus
