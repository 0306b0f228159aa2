/-
What the auto-start thread comes to.

Whatever is done with the server and the settings meanwhile, the thread asks for its
candidates in order, as long as it is told that none runs, and for no other address;
and once it is told of a server that runs, it stores the address of that one and asks
no more (`auto_start_outcome`).  It need not be the address that was asked for: a
server that the user has started elsewhere is as good.

The invariant is what the thread has done by the time it stands at each point
(`Attempted`).
-/
import TlsPlus.Extension.Session
import TlsPlus.Proofs.Extension.AutoStart
import TlsPlus.Proofs.Extension.Requests
import TlsPlus.Proofs.Net

namespace TlsPlus

variable {s s' : ExtensionState} {events : List SessionEvent} {configured : Str}

/-! ### The server meanwhile -/

/-- What is relied on of a start: a loopback address that is bound is one a server can run at. -/
def SessionEvent.Binds : SessionEvent → Prop
  | .autoStart w | .startServer w _ => ∀ world, w = some world → world.Binds
  | _ => True

/-- The server is stopped, or runs at an address it can be reached at. -/
def ServerState.Housed (server : ServerState) : Prop :=
  server = ⟨false, none, none⟩ ∨ ∃ addr : SocketAddr, ∃ task, addr.Listens ∧
    server = ⟨true, some addr.display, some ⟨task⟩⟩

theorem housed_start {w : Option StartWorld} (hbinds : ∀ world, w = some world → world.Binds)
    {server : ServerState} (h : server.Housed) (listenAddr : Str) :
    (coreStartServer w server listenAddr).2.Housed := by
  cases w with
  | none => exact h
  | some world =>
      rcases h with hstopped | ⟨addr, task, haddr, hrunning⟩
      · rcases startLocalServer_listens (hbinds world rfl) hstopped listenAddr with
          hsame | hopened
        · exact Or.inl (hsame.trans hstopped)
        · exact Or.inr hopened
      · refine Or.inr ⟨addr, task, haddr, ?_⟩
        rw [hrunning]
        rfl

/-- A start that reports a server that runs reports where it runs. -/
theorem reported_of_start {w : Option StartWorld} (hbinds : ∀ world, w = some world → world.Binds)
    {server : ServerState} (h : server.Housed) (listenAddr : Str)
    (hreports : reportsRunning (coreStartServer w server listenAddr).1 = true) :
    ∃ addr : SocketAddr, ∃ message, addr.Listens ∧
      (coreStartServer w server listenAddr).1 = some ⟨true, some addr.display, message⟩ := by
  cases w with
  | none => exact absurd hreports (by simp [coreStartServer, reportsRunning])
  | some world =>
      have hhoused := housed_start hbinds h listenAddr
      rcases h with hstopped | ⟨addr, task, haddr, hrunning⟩
      · have hnot : server.running = false := by rw [hstopped]
        rcases startLocalServer_cases world listenAddr hnot with
          ⟨-, message, hrefused⟩ | ⟨bound, message, -, hstarted⟩
        · refine absurd hreports ?_
          simp [coreStartServer, reportsRunning, hrefused, refusedStart]
        · simp only [coreStartServer, hstarted] at hhoused ⊢
          rcases hhoused with hfalse | ⟨addr, task, haddr, hsame⟩
          · exact absurd hfalse (by simp)
          · simp only [ServerState.mk.injEq, true_and] at hsame
            exact ⟨addr, message, haddr, by rw [hsame.1]⟩
      · refine ⟨addr, "Server is already running", haddr, ?_⟩
        rw [hrunning]
        rfl

theorem housed_step {event : SessionEvent} (h : s.server.Housed) (hbinds : event.Binds)
    (hstep : sessionMachine.step s event = some s') : s'.server.Housed := by
  cases event with
  | autoStart w =>
      rcases server_of_autoStartStep hstep with ⟨listenAddr, -, hserver⟩ | ⟨-, hserver⟩
      · rw [hserver]
        exact housed_start hbinds h listenAddr
      · rw [hserver]
        exact h
  | startServer w listenAddr =>
      rw [← Option.some.inj hstep]
      exact housed_start hbinds h listenAddr
  | stopServer completed =>
      rw [← Option.some.inj hstep]
      show (stopLocalServer completed s.server).2.Housed
      rw [stopLocalServer_snd]
      exact Or.inl rfl
  | change preferences =>
      rw [← Option.some.inj hstep]
      exact h

/-! ### What the thread has done by then -/

/-- Each of the addresses was asked for, and it was told of no server that runs. -/
def AllRefused (addresses : List Str) (acts : List AutoStartAct) : Prop :=
  List.Forall₂ (fun listenAddr act =>
    ∃ status, act = .asks listenAddr status ∧ reportsRunning status = false) addresses acts

theorem AllRefused.snoc {addresses : List Str} {acts : List AutoStartAct}
    (h : AllRefused addresses acts) {status : Option ServerStatus} (listenAddr : Str)
    (hrefused : ¬reportsRunning status = true) :
    AllRefused (addresses ++ [listenAddr]) (acts ++ [.asks listenAddr status]) :=
  List.rel_append h (.cons ⟨status, rfl, Bool.not_eq_true _ ▸ hrefused⟩ .nil)

/-- How the thread's attempts can end: all candidates are refused, or the first ones are, and what
is reported of the next is stored. -/
inductive StartOutcome (configured : Str) : List AutoStartAct → Prop
  | failed {acts : List AutoStartAct} (hrefused : AllRefused (startCandidates configured) acts) :
      StartOutcome configured acts
  | stored {refused : List Str} {acts : List AutoStartAct} {listenAddr : Str} {addr : SocketAddr}
      {message : Str} (hcandidates : refused ++ [listenAddr] <+: startCandidates configured)
      (hrefused : AllRefused refused acts) (haddr : addr.Listens) :
      StartOutcome configured (acts ++ [.asks listenAddr (some ⟨true, some addr.display, message⟩),
        .stores addr.display])

/-- What the thread is told of a server that runs is where it runs. -/
def Reported (status : Option ServerStatus) : Prop :=
  reportsRunning status = true →
    ∃ addr : SocketAddr, ∃ message, addr.Listens ∧ status = some ⟨true, some addr.display, message⟩

/-- What the thread has done since it read the setting, by the point it stands at. -/
inductive Attempted (configured : Str) : AutoStartPc → List AutoStartAct → Prop
  | starting : Attempted configured (.starting configured) []
  | started {status : Option ServerStatus} (hreported : Reported status) :
      Attempted configured (.started status) [.asks configured status]
  | retrying {i : Nat} {acts : List AutoStartAct} (hi : i < 5)
      (hrefused : AllRefused ((startCandidates configured).take (i + 1)) acts) :
      Attempted configured (.retrying (firstFallbackPort + i)) acts
  | retried {i : Nat} {acts : List AutoStartAct} {status : Option ServerStatus} (hi : i < 5)
      (hrefused : AllRefused ((startCandidates configured).take (i + 1)) acts)
      (hreported : Reported status) :
      Attempted configured (.retried (firstFallbackPort + i) status)
        (acts ++ [.asks (fallbackAddress (firstFallbackPort + i)) status])
  | refreshing {acts : List AutoStartAct} (houtcome : StartOutcome configured acts) :
      Attempted configured .refreshing acts
  | ended {acts : List AutoStartAct} (houtcome : StartOutcome configured acts) :
      Attempted configured .ended acts

theorem startCandidates_take_succ {i : Nat} (hi : i < 5) :
    (startCandidates configured).take (i + 2)
      = (startCandidates configured).take (i + 1) ++ [fallbackAddress (firstFallbackPort + i)] := by
  have hlength : (startCandidates configured).length = 6 := by simp [startCandidates]; rfl
  rw [List.take_succ_eq_append_getElem (by omega)]
  simp [startCandidates]

theorem startCandidates_front {i : Nat} (hi : i < 5) :
    (startCandidates configured).take (i + 1) ++ [fallbackAddress (firstFallbackPort + i)]
      <+: startCandidates configured := by
  rw [← startCandidates_take_succ hi]
  exact List.take_prefix _ _

/-- **One step of the thread.** -/
theorem Attempted.step {acts : List AutoStartAct} {w : Option StartWorld}
    (hbinds : ∀ world, w = some world → world.Binds) (hhoused : s.server.Housed)
    (h : Attempted configured s.autoStart acts) (hstep : s.autoStartStep w = some s') :
    Attempted configured s'.autoStart (acts ++ (autoStartAct s (.autoStart w)).toList) := by
  have hreported : ∀ listenAddr, Reported (coreStartServer w s.server listenAddr).1 :=
    fun listenAddr => reported_of_start hbinds hhoused listenAddr
  cases autoStartMove_of_step hstep with
  | wakes hpc =>
      rw [hpc] at h
      cases h
  | starts listenAddr hpc =>
      rw [hpc] at h
      cases h
      simp only [autoStartAct, hpc, Option.toList_some, List.nil_append]
      exact .started (hreported configured)
  | persists status hpc hrunning =>
      rw [hpc] at h
      cases h with
      | started hstatus =>
          obtain ⟨addr, message, haddr, rfl⟩ := hstatus hrunning
          have hact : autoStartAct s (.autoStart w) = some (.stores addr.display) := by
            simp [autoStartAct, hpc, reportsRunning]
          rw [hact]
          have hfirst : ([] : List Str) ++ [configured] <+: startCandidates configured :=
            List.prefix_append _ _
          exact .refreshing (.stored hfirst (.nil : AllRefused [] []) haddr)
  | fallsBack status hpc hrunning =>
      rw [hpc] at h
      cases h
      have hact : autoStartAct s (.autoStart w) = none := by
        simp [autoStartAct, hpc, hrunning]
      rw [hact]
      exact .retrying (i := 0) (by decide) (AllRefused.snoc .nil configured hrunning)
  | retries port hpc =>
      rw [hpc] at h
      cases h with
      | retrying hi hrefused =>
          simp only [autoStartAct, hpc, Option.toList_some]
          exact .retried hi hrefused (hreported _)
  | persistsRetry port status hpc hrunning =>
      rw [hpc] at h
      cases h with
      | retried hi hrefused hstatus =>
          obtain ⟨addr, message, haddr, rfl⟩ := hstatus hrunning
          have hact : autoStartAct s (.autoStart w) = some (.stores addr.display) := by
            simp [autoStartAct, hpc, reportsRunning]
          rw [hact, List.append_assoc]
          exact .refreshing (.stored (startCandidates_front hi) hrefused haddr)
  | retryFails port status hpc hrunning next hnext =>
      rw [hpc] at h
      cases h with
      | @retried i acts _ hi hrefused _ =>
          have hact : autoStartAct s (.autoStart w) = none := by
            simp [autoStartAct, hpc, hrunning]
          have hall := hrefused.snoc (fallbackAddress (firstFallbackPort + i)) hrunning
          rw [← startCandidates_take_succ hi] at hall
          rw [hact, Option.toList_none, List.append_nil, hnext]
          by_cases hlast : firstFallbackPort + i < lastFallbackPort
          · rw [if_pos hlast]
            have hi' : i + 1 < 5 := by
              unfold firstFallbackPort lastFallbackPort at hlast
              omega
            exact .retrying hi' hall
          · rw [if_neg hlast]
            obtain rfl : i = 4 := by
              unfold firstFallbackPort lastFallbackPort at hlast
              omega
            exact .refreshing (.failed hall)
  | ends hpc =>
      rw [hpc] at h
      cases h with
      | refreshing houtcome =>
          have hact : autoStartAct s (.autoStart w) = none := by
            simp [autoStartAct, hpc]
          rw [hact, Option.toList_none, List.append_nil]
          exact .ended houtcome

/-! ### What the thread comes to -/

/-- Where a session stands: the thread has not woken, or has done what belongs to its point. -/
def SessionSo (acts : List AutoStartAct) (s : ExtensionState) : Prop :=
  s.server.Housed ∧ ((s.autoStart = .sleeping ∧ acts = []) ∨
    ∃ configured tried, acts = .reads configured :: tried ∧
      Attempted configured s.autoStart tried)

theorem sessionSo_step {acts : List AutoStartAct} {event : SessionEvent} (hbinds : event.Binds)
    (h : SessionSo acts s) (hstep : sessionMachine.step s event = some s') :
    SessionSo (acts ++ (autoStartAct s event).toList) s' := by
  refine ⟨housed_step h.1 hbinds hstep, ?_⟩
  have helsewhere : autoStartAct s event = none → s'.autoStart = s.autoStart →
      (s'.autoStart = .sleeping ∧ acts ++ (autoStartAct s event).toList = []) ∨
        ∃ configured tried, acts ++ (autoStartAct s event).toList = .reads configured :: tried ∧
          Attempted configured s'.autoStart tried := by
    intro hact hsame
    rw [hact, hsame, Option.toList_none, List.append_nil]
    exact h.2
  cases event with
  | startServer w listenAddr =>
      rw [← Option.some.inj hstep] at helsewhere ⊢
      exact helsewhere rfl rfl
  | stopServer completed =>
      rw [← Option.some.inj hstep] at helsewhere ⊢
      exact helsewhere rfl rfl
  | change preferences =>
      rw [← Option.some.inj hstep] at helsewhere ⊢
      exact helsewhere rfl rfl
  | autoStart w =>
      rcases h.2 with ⟨hsleeping, rfl⟩ | ⟨configured, tried, rfl, htried⟩
      · cases autoStartMove_of_step hstep with
        | wakes hpc =>
            have hact : autoStartAct s (.autoStart w)
                = some (.reads s.preferences.serverListenAddr) := by
              simp [autoStartAct, hpc]
            rw [hact]
            exact Or.inr ⟨_, [], rfl, .starting⟩
        | starts _ hpc
        | persists _ hpc
        | fallsBack _ hpc
        | retries _ hpc
        | persistsRetry _ _ hpc
        | retryFails _ _ hpc
        | ends hpc => exact absurd (hsleeping.symm.trans hpc) (by simp)
      · exact Or.inr ⟨configured, _, List.cons_append, htried.step hbinds h.1 hstep⟩

theorem sessionSo_of_run {preferences : Preferences} (hbinds : ∀ event ∈ events, event.Binds)
    (hrun : sessionMachine.run (.load preferences) events = some s) :
    SessionSo (sessionMachine.emits autoStartAct (.load preferences) events) s :=
  Machine.run_emits (P := SessionSo) (C := fun _ event => event.Binds)
    (fun _ _ _ _ h hevent hstep => sessionSo_step hevent h hstep)
    (Machine.meets_of_forall _ fun _ => hbinds) ⟨Or.inl rfl, Or.inl ⟨rfl, rfl⟩⟩ hrun

/-- How many steps are left to the thread at most. -/
def AutoStartPc.left : AutoStartPc → Nat
  | .sleeping => 14
  | .starting _ => 13
  | .started _ => 12
  | .retrying port => 2 * (lastFallbackPort - port) + 3
  | .retried port _ => 2 * (lastFallbackPort - port) + 2
  | .refreshing => 1
  | .ended => 0

def SessionEvent.isAutoStart : SessionEvent → Bool
  | .autoStart _ => true
  | _ => false

theorem left_step {event : SessionEvent} (hstep : sessionMachine.step s event = some s') :
    s'.autoStart.left ≤ s.autoStart.left ∧
      (event.isAutoStart = true → s'.autoStart.left < s.autoStart.left) := by
  cases event with
  | startServer _ _
  | stopServer _
  | change _ =>
      rw [← Option.some.inj hstep]
      exact ⟨le_refl _, fun h => absurd h Bool.false_ne_true⟩
  | autoStart w =>
      have hlower : s'.autoStart.left < s.autoStart.left := by
        cases autoStartMove_of_step hstep with
        | retryFails port status hpc _ next hnext =>
            rw [hpc, hnext]
            by_cases hport : port < lastFallbackPort
            · rw [if_pos hport]
              show 2 * (lastFallbackPort - (port + 1)) + 3 < 2 * (lastFallbackPort - port) + 2
              omega
            · rw [if_neg hport]
              show 1 < 2 * (lastFallbackPort - port) + 2
              omega
        | persistsRetry port status hpc _ =>
            rw [hpc]
            show 1 < 2 * (lastFallbackPort - port) + 2
            omega
        | retries port hpc =>
            rw [hpc]
            exact Nat.lt_succ_self _
        | fallsBack _ hpc =>
            rw [hpc]
            show 2 * (lastFallbackPort - firstFallbackPort) + 3 < 12
            decide
        | persists _ hpc =>
            rw [hpc]
            show 1 < 12
            omega
        | wakes hpc
        | starts _ hpc
        | ends hpc =>
            rw [hpc]
            exact Nat.lt_succ_self _
      exact ⟨hlower.le, fun _ => hlower⟩

/-- **The thread asks in order until it is told of a server that runs, and stores where it runs.**
Whatever is done with the server and the settings meanwhile, a thread that has ended has read the
setting once and then asked for that address and the fallback ones in turn: either it was told each
time that none runs, or the first time it was told of one it stored the loopback address of that
one, and asked no more.  It ends after 14 steps at the most, and nothing holds it up. -/
theorem auto_start_outcome {preferences : Preferences} (hbinds : ∀ event ∈ events, event.Binds)
    (hrun : sessionMachine.run (.load preferences) events = some s) :
    (s.autoStart = .ended → ∃ configured tried,
      sessionMachine.emits autoStartAct (.load preferences) events = .reads configured :: tried ∧
        StartOutcome configured tried) ∧
    events.countP SessionEvent.isAutoStart ≤ 14 ∧
    (s.autoStart ≠ .ended → ∀ w, ∃ s', sessionMachine.step s (.autoStart w) = some s') := by
  refine ⟨fun hended => ?_, ?_, fun hnot w => ?_⟩
  · rcases (sessionSo_of_run hbinds hrun).2 with ⟨hsleeping, -⟩ | ⟨configured, tried, hacts, htried⟩
    · exact absurd (hsleeping.symm.trans hended) (by simp)
    · rw [hended] at htried
      cases htried with
      | ended houtcome => exact ⟨configured, tried, hacts, houtcome⟩
  · have hbound : events.countP SessionEvent.isAutoStart + s.autoStart.left
        ≤ (ExtensionState.load preferences).autoStart.left :=
      Machine.run_rank (P := fun _ => True) (fun _ _ _ _ _ => trivial)
        (fun _ _ _ _ hstep => left_step hstep) trivial hrun
    have hinit : (ExtensionState.load preferences).autoStart.left = 14 := rfl
    omega
  · show ∃ s', s.autoStartStep w = some s'
    unfold ExtensionState.autoStartStep
    cases hpc : s.autoStart with
    | ended => exact absurd hpc hnot
    | started status => simp only; split <;> exact ⟨_, rfl⟩
    | retried port status =>
        simp only
        split
        · exact ⟨_, rfl⟩
        · split <;> exact ⟨_, rfl⟩
    | sleeping
    | starting listenAddr
    | retrying port
    | refreshing => exact ⟨_, rfl⟩

/-! ### A start from elsewhere -/

/-- A machine with one loopback address, some of whose ports are taken. -/
def takenPorts (taken : List UInt16) : StartWorld where
  parseAddr := parseSocketAddr
  runtime := .ok ()
  bind addr :=
    if addr.ip = .v4 127 0 0 1 ∧ addr.port ≠ 0 ∧ addr.port ∉ taken then .ok addr
    else .error "address already in use"
  task := 0

theorem takenPorts_binds (taken : List UInt16) : (takenPorts taken).Binds := by
  intro addr bound hbind _
  simp only [takenPorts] at hbind
  split at hbind
  · rename_i hfree
    rw [← Except.ok.inj hbind]
    refine ⟨?_, fun _ _ h => ?_, hfree.2.1⟩
    · rw [hfree.1]
      decide
    · rw [hfree.1] at h
      exact absurd h (by simp)
  · exact absurd hbind (by simp)

/-- The configured port is taken; before the thread asks for another one, the user starts the server
at port 9000. -/
def startedMeanwhile : List SessionEvent :=
  [.autoStart none, .autoStart (some (takenPorts [43117])), .autoStart none,
   .startServer (some (takenPorts [])) "127.0.0.1:9000",
   .autoStart (some (takenPorts [43117])), .autoStart none, .autoStart none]

/-- The thread stores the address of the user's server. -/
theorem auto_start_outcome_elsewhere :
    ∃ s, sessionMachine.run (.load .empty) startedMeanwhile = some s ∧
      s.preferences.serverListenAddr = "127.0.0.1:9000" ∧
      ∃ configured tried, sessionMachine.emits autoStartAct (.load .empty) startedMeanwhile
          = .reads configured :: tried ∧ StartOutcome configured tried := by
  have hbinds : ∀ event ∈ startedMeanwhile, event.Binds := by
    intro event hevent
    simp only [startedMeanwhile, List.mem_cons, List.not_mem_nil, or_false] at hevent
    rcases hevent with rfl | rfl | rfl | rfl | rfl | rfl | rfl <;>
      intro world hworld <;> cases hworld <;> exact takenPorts_binds _
  have hends : (sessionMachine.run (.load .empty) startedMeanwhile).map (fun s =>
      (s.autoStart, s.preferences.serverListenAddr))
      = some (AutoStartPc.ended, ("127.0.0.1:9000" : Str)) := by decide
  obtain ⟨s, hrun, hs⟩ := Option.map_eq_some_iff.mp hends
  rw [Prod.mk.injEq] at hs
  exact ⟨s, hrun, hs.2, (auto_start_outcome hbinds hrun).1 hs.1⟩

end TlsPlus
