/-
An address that worked is found again.

The thread stores the text of the address it found a server at, and the next session
starts from the stored text.  Since such a text parses to the address it was printed
from, the next start comes to that very address, and only the system can refuse it
there (`address_remembered`).  A fallback port, once used, is kept in this way also
when the port that was configured is free again.

Within a session the setting is the one it began with or one that the thread has stored
(`SettingSo`); what it stores it has been told of, and what it is told is where a server
runs at that time (`runsAt_of_asks`).  From session to session this is one invariant of
the settings and of the sessions so far.
-/
import TlsPlus.Proofs.Extension.Session

namespace TlsPlus

variable {s s' : ExtensionState} {p : Preferences} {addr : SocketAddr}

/-! ### Where a server ran -/

/-- At some time in the session, a server ran at the address. -/
def RunsAt (p : Preferences) (session : List SessionEvent) (addr : SocketAddr) : Prop :=
  ∃ before after s, session = before ++ after ∧
    sessionMachine.run (.load p) before = some s ∧ s.server.running = true ∧
      s.server.listenAddr = some addr.display

/-- In one of the sessions, a server ran at the address. -/
def RanAt (p₀ : Preferences) (past : List (List SessionEvent)) (addr : SocketAddr) : Prop :=
  ∃ earlier session later p, past = earlier ++ session :: later ∧
    sessionsMachine.run p₀ earlier = some p ∧ RunsAt p session addr

theorem RanAt.append {p₀ : Preferences} {past : List (List SessionEvent)} (h : RanAt p₀ past addr)
    (session : List SessionEvent) : RanAt p₀ (past ++ [session]) addr := by
  obtain ⟨earlier, ran, later, p, hpast, hran⟩ := h
  refine ⟨earlier, ran, later ++ [session], p, ?_, hran⟩
  rw [hpast, List.append_assoc, List.cons_append]

/-- The setting is the text of a loopback address at which a server ran in one of the sessions. -/
structure Remembers (p₀ : Preferences) (past : List (List SessionEvent)) (p : Preferences)
    (addr : SocketAddr) : Prop where
  listens : addr.Listens
  ran : RanAt p₀ past addr
  setting : p.serverListenAddr = addr.display

/-- A start that reports a server that runs leaves one that runs there. -/
theorem running_of_report {w : Option StartWorld} {server : ServerState} {listenAddr text : Str}
    {message : Str}
    (h : (coreStartServer w server listenAddr).1 = some ⟨true, some text, message⟩) :
    (coreStartServer w server listenAddr).2.running = true ∧
      (coreStartServer w server listenAddr).2.listenAddr = some text := by
  cases w with
  | none => exact absurd h (by simp [coreStartServer])
  | some world =>
      simp only [coreStartServer, Option.some.injEq] at h ⊢
      cases hrunning : server.running with
      | true =>
          rw [startLocalServer_running world listenAddr hrunning, ServerStatus.mk.injEq] at h
          rw [startLocalServer_running world listenAddr hrunning]
          exact ⟨hrunning, h.2.1⟩
      | false =>
          rcases startLocalServer_cases world listenAddr hrunning with
            ⟨-, refusal, hrefused⟩ | ⟨bound, success, -, hstarted⟩
          · rw [hrefused] at h
            exact absurd h (by simp [refusedStart])
          · rw [hstarted, ServerStatus.mk.injEq] at h
            rw [hstarted]
            exact ⟨rfl, h.2.1⟩

/-- **What the thread is told of is where a server runs.** -/
theorem runsAt_of_asks {session : List SessionEvent} {listenAddr message : Str}
    (hrun : sessionMachine.run (.load p) session = some s)
    (hasks : .asks listenAddr (some ⟨true, some addr.display, message⟩)
      ∈ sessionMachine.emits autoStartAct (.load p) session) : RunsAt p session addr := by
  obtain ⟨before, event, after, u, u', hsession, hbefore, hstep, hact⟩ :=
    Machine.exists_step_of_mem_emits hrun hasks
  refine ⟨before ++ [event], after, u', ?_, Machine.run_snoc hbefore hstep, ?_⟩
  · rw [hsession, List.append_assoc, List.singleton_append]
  cases event with
  | startServer _ _
  | stopServer _
  | change _ => exact absurd hact (by simp [autoStartAct])
  | autoStart w =>
      cases autoStartMove_of_step hstep with
      | starts _ hpc
      | retries _ hpc =>
          simp only [autoStartAct, hpc, Option.some.injEq, AutoStartAct.asks.injEq] at hact
          obtain ⟨rfl, hstatus⟩ := hact
          exact running_of_report hstatus
      | wakes hpc
      | ends hpc => exact absurd hact (by simp [autoStartAct, hpc])
      | persists status hpc hrunning =>
          simp only [autoStartAct, hpc, if_pos hrunning] at hact
          obtain ⟨value, -, hvalue⟩ := Option.map_eq_some_iff.mp hact
          exact absurd hvalue (by simp)
      | fallsBack status hpc hrunning
      | persistsRetry _ status hpc hrunning
      | retryFails _ status hpc hrunning =>
          exact absurd hact (by simp [autoStartAct, hpc, hrunning])

/-! ### The setting along a session -/

/-- Where other settings are written, the listen address stays. -/
def KeepsAddress (s : ExtensionState) (event : SessionEvent) : Prop :=
  event.Binds ∧ ∀ preferences, event = .change preferences →
    preferences.serverListenAddr = s.preferences.serverListenAddr

theorem serverListenAddr_set (p : Preferences) (value : Str) :
    (p.setServerListenAddr value).serverListenAddr = value :=
  congrArg Settings.serverListenAddr (p.settings_setServerListenAddr value)

/-- **The thread writes the setting only as its acts say.** -/
theorem preferences_of_autoStartStep {w : Option StartWorld} (h : s.autoStartStep w = some s') :
    (∃ value, autoStartAct s (.autoStart w) = some (.stores value) ∧
      s'.preferences = s.preferences.setServerListenAddr value) ∨
    ((∀ value, autoStartAct s (.autoStart w) ≠ some (.stores value)) ∧
      s'.preferences = s.preferences) := by
  cases autoStartMove_of_step h with
  | persists status hpc hrunning =>
      cases haddr : status.bind ServerStatus.listenAddr with
      | none =>
          refine Or.inr ⟨fun value => ?_, ?_⟩
          · simp [autoStartAct, hpc, hrunning, haddr]
          · show persistLiveAddress s.preferences status = s.preferences
            rw [persistLiveAddress, if_pos hrunning, haddr]
      | some value =>
          refine Or.inl ⟨value, ?_, ?_⟩
          · simp [autoStartAct, hpc, hrunning, haddr]
          · show persistLiveAddress s.preferences status = _
            rw [persistLiveAddress, if_pos hrunning, haddr]
  | persistsRetry port status hpc hrunning =>
      exact Or.inl ⟨_, by simp [autoStartAct, hpc, hrunning], rfl⟩
  | wakes hpc
  | starts _ hpc
  | retries _ hpc
  | ends hpc => exact Or.inr ⟨fun value => by simp [autoStartAct, hpc], rfl⟩
  | fallsBack status hpc hrunning
  | retryFails _ status hpc hrunning =>
      exact Or.inr ⟨fun value => by simp [autoStartAct, hpc, hrunning], rfl⟩

theorem AllRefused.not_stores {addresses : List Str} {acts : List AutoStartAct}
    (h : AllRefused addresses acts) (value : Str) : .stores value ∉ acts := by
  induction h with
  | nil => exact List.not_mem_nil
  | cons hact _ ih =>
      obtain ⟨status, rfl, -⟩ := hact
      simp [ih]

theorem StartOutcome.asks_of_stores {configured value : Str} {tried : List AutoStartAct}
    (h : StartOutcome configured tried) (hstores : .stores value ∈ tried) :
    ∃ listenAddr message, ∃ addr : SocketAddr, addr.Listens ∧ value = addr.display ∧
      .asks listenAddr (some ⟨true, some addr.display, message⟩) ∈ tried := by
  cases h with
  | failed hrefused => exact absurd hstores (hrefused.not_stores value)
  | @stored refused acts listenAddr addr message hcandidates hrefused haddr =>
      refine ⟨listenAddr, message, addr, haddr, ?_, by simp⟩
      rcases List.mem_append.mp hstores with hearlier | hlast
      · exact absurd hearlier (hrefused.not_stores value)
      · simpa using hlast

/-- What the thread stores it has been told of. -/
theorem SessionSo.asks_of_stores {acts : List AutoStartAct} {value : Str} (h : SessionSo acts s)
    (hstores : .stores value ∈ acts) :
    ∃ listenAddr message, ∃ addr : SocketAddr, addr.Listens ∧ value = addr.display ∧
      .asks listenAddr (some ⟨true, some addr.display, message⟩) ∈ acts := by
  rcases h.2 with ⟨-, rfl⟩ | ⟨configured, tried, rfl, htried⟩
  · exact absurd hstores List.not_mem_nil
  have hlater : .stores value ∈ tried := by simpa using hstores
  have houtcome : StartOutcome configured tried := by
    generalize s.autoStart = pc at htried
    cases htried with
    | starting => exact absurd hlater List.not_mem_nil
    | started _ => exact absurd hlater (by simp)
    | retrying _ hrefused => exact absurd hlater (hrefused.not_stores value)
    | retried _ hrefused _ =>
        refine absurd hlater ?_
        simp [hrefused.not_stores value]
    | refreshing houtcome => exact houtcome
    | ended houtcome => exact houtcome
  obtain ⟨listenAddr, message, addr, haddr, hvalue, hasks⟩ := houtcome.asks_of_stores hlater
  exact ⟨listenAddr, message, addr, haddr, hvalue, List.mem_cons_of_mem _ hasks⟩

/-- The setting is the one that the session began with, or was stored by the thread. -/
def SettingSo (p : Preferences) (acts : List AutoStartAct) (s : ExtensionState) : Prop :=
  SessionSo acts s ∧ (s.preferences.serverListenAddr = p.serverListenAddr ∨
    .stores s.preferences.serverListenAddr ∈ acts)

theorem settingSo_step {acts : List AutoStartAct} {event : SessionEvent} (h : SettingSo p acts s)
    (hkeeps : KeepsAddress s event) (hstep : sessionMachine.step s event = some s') :
    SettingSo p (acts ++ (autoStartAct s event).toList) s' := by
  refine ⟨sessionSo_step hkeeps.1 h.1 hstep, ?_⟩
  have hsame : s'.preferences.serverListenAddr = s.preferences.serverListenAddr →
      s'.preferences.serverListenAddr = p.serverListenAddr ∨
        .stores s'.preferences.serverListenAddr ∈ acts ++ (autoStartAct s event).toList := by
    intro heq
    rw [heq]
    exact h.2.imp_right (List.mem_append_left _)
  cases event with
  | startServer _ _
  | stopServer _ =>
      refine hsame ?_
      rw [← Option.some.inj hstep]
  | change preferences =>
      refine hsame ?_
      rw [← Option.some.inj hstep]
      exact hkeeps.2 preferences rfl
  | autoStart w =>
      rcases preferences_of_autoStartStep hstep with ⟨value, hact, hstored⟩ | ⟨-, hkept⟩
      · refine Or.inr (List.mem_append_right _ ?_)
        rw [hact, hstored, serverListenAddr_set]
        exact List.mem_singleton_self _
      · exact hsame (by rw [hkept])

/-- **A session leaves the address it began with, or one at which a server ran in it.** -/
theorem setting_of_session {session : List SessionEvent}
    (hkeeps : sessionMachine.Meets KeepsAddress (.load p) session)
    (hrun : sessionMachine.run (.load p) session = some s) :
    s.preferences.serverListenAddr = p.serverListenAddr ∨
      ∃ addr : SocketAddr, addr.Listens ∧ RunsAt p session addr ∧
        s.preferences.serverListenAddr = addr.display := by
  have hinit : SettingSo p [] (.load p) := ⟨⟨Or.inl rfl, Or.inl ⟨rfl, rfl⟩⟩, Or.inl rfl⟩
  obtain ⟨hsession, hsetting⟩ := Machine.run_emits
    (fun _ _ _ _ h hkeeps hstep => settingSo_step h hkeeps hstep) hkeeps hinit hrun
  refine hsetting.imp_right fun hstores => ?_
  obtain ⟨listenAddr, message, addr, haddr, hvalue, hasks⟩ := hsession.asks_of_stores hstores
  exact ⟨addr, haddr, runsAt_of_asks hrun hasks, hvalue⟩

/-- **From session to session**, the setting is the first one or remembered. -/
theorem setting_of_sessions {past : List (List SessionEvent)} {p₀ : Preferences}
    (hkeeps : sessionsMachine.Meets
      (fun p session => sessionMachine.Meets KeepsAddress (.load p) session) p₀ past)
    (hpast : sessionsMachine.run p₀ past = some p) :
    p.serverListenAddr = p₀.serverListenAddr ∨ ∃ addr, Remembers p₀ past p addr := by
  refine (Machine.run_history_meets (P := fun past p => sessionsMachine.run p₀ past = some p ∧
    (p.serverListenAddr = p₀.serverListenAddr ∨ ∃ addr, Remembers p₀ past p addr))
    (fun past p session p' hp hsession hstep => ?_) hkeeps ⟨rfl, Or.inl rfl⟩ hpast).2
  obtain ⟨hpast, hsetting⟩ := hp
  refine ⟨Machine.run_snoc hpast hstep, ?_⟩
  obtain ⟨s, hrun, rfl⟩ := Option.map_eq_some_iff.mp hstep
  rcases setting_of_session hsession hrun with hsame | ⟨addr, haddr, hran, hnew⟩
  · rcases hsetting with hfirst | ⟨addr, hremembers⟩
    · exact Or.inl (hsame.trans hfirst)
    · exact Or.inr ⟨addr, hremembers.listens, hremembers.ran.append session,
        hsame.trans hremembers.setting⟩
  · exact Or.inr ⟨addr, haddr, ⟨past, session, [], p, rfl, hpast, hran⟩, hnew⟩

/-! ### The next session -/

/-- A start comes to the address it is given as text, and finds it free. -/
structure StartWorld.Grants (w : StartWorld) (addr : SocketAddr) : Prop where
  parseAddr : w.parseAddr = parseSocketAddr
  runtime : w.runtime = .ok ()
  bind : w.bind addr = .ok addr

/-- The thread's starts find the address free, and nobody else starts a server or writes the
address. -/
def Reopens (addr : SocketAddr) (s : ExtensionState) : SessionEvent → Prop
  | .autoStart w => s.autoStart.address.isSome → ∃ world, w = some world ∧ world.Grants addr
  | .startServer _ _ => False
  | .stopServer _ => True
  | .change preferences => preferences.serverListenAddr = s.preferences.serverListenAddr

/-- What is reported of a server that was started at the address. -/
def startedAt (addr : SocketAddr) : Option ServerStatus :=
  some ⟨true, some addr.display, "Local HTTP forward proxy started"⟩

theorem coreStartServer_of_grants {world : StartWorld} (haddr : addr.Listens)
    (hgrants : world.Grants addr) :
    (coreStartServer (some world) ⟨false, none, none⟩ addr.display).1 = startedAt addr := by
  have hparse : world.parseAddr addr.display = .ok addr := by
    rw [hgrants.parseAddr]
    exact parseSocketAddr_display haddr
  simp [coreStartServer, startLocalServer, hparse, haddr.loopback, hgrants.runtime, hgrants.bind,
    startedAt]

/-- What the thread has done, by the point it stands at, and the setting still is the address. -/
inductive ReopensSo (addr : SocketAddr) : List AutoStartAct → ExtensionState → Prop
  | sleeping {p : Preferences} (hp : p.serverListenAddr = addr.display) :
      ReopensSo addr [] ⟨p, ⟨false, none, none⟩, .sleeping⟩
  | starting {p : Preferences} (hp : p.serverListenAddr = addr.display) :
      ReopensSo addr [.reads addr.display] ⟨p, ⟨false, none, none⟩, .starting addr.display⟩
  | started {p : Preferences} {server : ServerState} (hp : p.serverListenAddr = addr.display) :
      ReopensSo addr [.reads addr.display, .asks addr.display (startedAt addr)]
        ⟨p, server, .started (startedAt addr)⟩
  | stored {p : Preferences} {server : ServerState} {pc : AutoStartPc}
      (hp : p.serverListenAddr = addr.display) (hpc : pc = .refreshing ∨ pc = .ended) :
      ReopensSo addr [.reads addr.display, .asks addr.display (startedAt addr),
        .stores addr.display] ⟨p, server, pc⟩

theorem reopensSo_step {acts : List AutoStartAct} {event : SessionEvent} (haddr : addr.Listens)
    (h : ReopensSo addr acts s) (hreopens : Reopens addr s event)
    (hstep : sessionMachine.step s event = some s') :
    ReopensSo addr (acts ++ (autoStartAct s event).toList) s' := by
  cases event with
  | startServer _ _ => exact absurd hreopens id
  | stopServer completed =>
      rw [← Option.some.inj hstep]
      have hstopped : (stopLocalServer completed s.server).2 = ⟨false, none, none⟩ :=
        stopLocalServer_snd completed s.server
      simp only [autoStartAct, Option.toList_none, List.append_nil, hstopped]
      cases h with
      | sleeping hp => exact .sleeping hp
      | starting hp => exact .starting hp
      | started hp => exact .started hp
      | stored hp hpc => exact .stored hp hpc
  | change preferences =>
      rw [← Option.some.inj hstep]
      simp only [autoStartAct, Option.toList_none, List.append_nil]
      have hsame : preferences.serverListenAddr = s.preferences.serverListenAddr := hreopens
      cases h with
      | sleeping hp => exact .sleeping (hsame.trans hp)
      | starting hp => exact .starting (hsame.trans hp)
      | started hp => exact .started (hsame.trans hp)
      | stored hp hpc => exact .stored (hsame.trans hp) hpc
  | autoStart w =>
      cases h with
      | sleeping hp =>
          rw [← Option.some.inj hstep]
          simp only [autoStartAct, hp]
          exact .starting hp
      | starting hp =>
          obtain ⟨world, rfl, hgrants⟩ := hreopens rfl
          have hstatus := coreStartServer_of_grants haddr hgrants
          rw [← Option.some.inj hstep]
          simp only [autoStartAct, hstatus]
          exact .started hp
      | started hp =>
          rw [← Option.some.inj hstep]
          exact .stored (serverListenAddr_set _ _) (Or.inl rfl)
      | stored hp hpc =>
          rcases hpc with rfl | rfl
          · rw [← Option.some.inj hstep]
            exact .stored hp (Or.inr rfl)
          · exact absurd hstep (by simp [sessionMachine, ExtensionState.autoStartStep])

/-- **An address that worked is found again.**  As long as nobody else writes the address, the
setting is the one the first session began with or the text of an address at which a server ran in
one of the sessions; such a text parses to that very address, and a session that begins with it
asks for that address first, whatever else is done and whether or not other addresses are free: if
it is free, the thread asks for no other, a server runs there, and the same text is stored again. -/
theorem address_remembered {past : List (List SessionEvent)} {p₀ : Preferences}
    (hkeeps : sessionsMachine.Meets
      (fun p session => sessionMachine.Meets KeepsAddress (.load p) session) p₀ past)
    (hpast : sessionsMachine.run p₀ past = some p) :
    (p.serverListenAddr = p₀.serverListenAddr ∨ ∃ addr, Remembers p₀ past p addr) ∧
    ∀ addr, Remembers p₀ past p addr → parseSocketAddr p.serverListenAddr = .ok addr ∧
      ∀ (next : List SessionEvent) (s : ExtensionState),
        sessionMachine.Meets (Reopens addr) (.load p) next →
        sessionMachine.run (.load p) next = some s → s.autoStart = .ended →
          sessionMachine.emits autoStartAct (.load p) next
            = [.reads addr.display, .asks addr.display (startedAt addr), .stores addr.display] ∧
          RunsAt p next addr ∧ Remembers p₀ (past ++ [next]) s.preferences addr := by
  refine ⟨setting_of_sessions hkeeps hpast, ?_⟩
  rintro addr ⟨haddr, hran, hsetting⟩
  refine ⟨by rw [hsetting, parseSocketAddr_display haddr], fun next s hreopens hrun hended => ?_⟩
  have hend := Machine.run_emits (P := ReopensSo addr)
    (fun _ _ _ _ h hreopens hstep => reopensSo_step haddr h hreopens hstep) hreopens
    (.sleeping hsetting) hrun
  have hruns : .asks addr.display (startedAt addr)
      ∈ sessionMachine.emits autoStartAct (.load p) next → RunsAt p next addr :=
    fun hasks => runsAt_of_asks hrun hasks
  generalize sessionMachine.emits autoStartAct (.load p) next = acts at hend hruns ⊢
  cases hend with
  | stored hp hpc => exact ⟨rfl, hruns (by simp), haddr, hran.append next, hp⟩
  | sleeping _
  | starting _
  | started _ => exact absurd hended (by simp)

/-! ### Two sessions -/

/-- The configured port is taken, and the thread goes on to the first fallback port. -/
def fallbackSession : List SessionEvent :=
  [.autoStart none, .autoStart (some (takenPorts [43117])), .autoStart none,
   .autoStart (some (takenPorts [43117])), .autoStart none, .autoStart none]

/-- All ports are free. -/
def freeSession : List SessionEvent := List.replicate 4 (.autoStart (some (takenPorts [])))

theorem takenPorts_grants : (takenPorts []).Grants ⟨.v4 127 0 0 1, 43118⟩ :=
  ⟨rfl, rfl, by decide⟩

/-- The second session stays on the fallback port, although the port that was configured is free
again. -/
theorem address_remembered_fallback :
    ∃ p s, sessionsMachine.run .empty [fallbackSession] = some p ∧
      sessionMachine.run (.load p) freeSession = some s ∧
      RunsAt p freeSession ⟨.v4 127 0 0 1, 43118⟩ ∧
      Remembers .empty [fallbackSession, freeSession] s.preferences ⟨.v4 127 0 0 1, 43118⟩ := by
  have hkeeps : sessionsMachine.Meets
      (fun p session => sessionMachine.Meets KeepsAddress (.load p) session) .empty
      [fallbackSession] := by
    refine ⟨Machine.meets_of_forall _ fun s event hevent => ?_, fun _ _ => trivial⟩
    simp only [fallbackSession, List.mem_cons, List.not_mem_nil, or_false] at hevent
    rcases hevent with rfl | rfl | rfl | rfl | rfl | rfl <;>
      refine ⟨fun world hworld => ?_, fun _ h => absurd h (by simp)⟩ <;>
      cases hworld <;> exact takenPorts_binds _
  have hran : RanAt .empty [fallbackSession] ⟨.v4 127 0 0 1, 43118⟩ := by
    have hserver : (sessionMachine.run (.load .empty) (fallbackSession.take 4)).map
        (fun s => (s.server.running, s.server.listenAddr))
        = some (true, some (SocketAddr.display ⟨.v4 127 0 0 1, 43118⟩)) := by decide
    obtain ⟨s, hrun, hs⟩ := Option.map_eq_some_iff.mp hserver
    rw [Prod.mk.injEq] at hs
    exact ⟨[], fallbackSession, [], .empty, rfl, rfl, fallbackSession.take 4,
      fallbackSession.drop 4, s, rfl, hrun, hs.1, hs.2⟩
  have hends : (sessionsMachine.run .empty [fallbackSession]).map (fun p =>
      (p.serverListenAddr,
        (sessionMachine.run (.load p) freeSession).map ExtensionState.autoStart))
      = some (SocketAddr.display ⟨.v4 127 0 0 1, 43118⟩, some AutoStartPc.ended) := by decide
  obtain ⟨p, hpast, hp⟩ := Option.map_eq_some_iff.mp hends
  rw [Prod.mk.injEq] at hp
  obtain ⟨s, hrun, hended⟩ := Option.map_eq_some_iff.mp hp.2
  have hremembers : Remembers .empty [fallbackSession] p ⟨.v4 127 0 0 1, 43118⟩ :=
    ⟨⟨by decide, fun _ _ h => absurd h (by simp), by decide⟩, hran, hp.1⟩
  have hreopens : sessionMachine.Meets (Reopens ⟨.v4 127 0 0 1, 43118⟩) (.load p) freeSession := by
    refine Machine.meets_of_forall _ fun s event hevent => ?_
    rw [List.eq_of_mem_replicate hevent]
    exact fun _ => ⟨_, rfl, takenPorts_grants⟩
  exact ⟨p, s, hpast, hrun,
    (((address_remembered hkeeps hpast).2 _ hremembers).2 freeSession s hreopens hrun hended).2⟩

end TlsPlus
