/-
The header tells what the core has told.

Between the question and the answer's being shown the server may have changed, and two
answers may be shown in the wrong order.  What can be said at any time is that the
header shows an answer that one of its own threads got (`header_told`).  When nothing is
under way but calls that do not return, the tab has come to rest, and only the buttons
of such calls are off (`tab_settles`); and if the server has not changed since the tab was
last at rest, one refresh since then is enough for the header to be right
(`header_catches_up`).

Both rest on what is under way: every status on its way to the header was true of a
server that `P` holds of (`Tells`), be that "there was such a server" or "the server is
like this".
-/
import TlsPlus.Proofs.Extension.Tab

namespace TlsPlus

variable {paths : LoaderPaths} {w : CallWorld} {s s' : Tab} {P : ServerState → Prop}

/-! ### Statuses on their way -/

def Update.Tells (P : ServerState → Prop) : Update → Prop
  | .status _ _ running listenAddr => ∃ server, P server ∧ running = server.running ∧
      (server.running = true → server.listenAddr = some listenAddr)
  | _ => True

def Worker.Tells (P : ServerState → Prop) : Worker → Prop
  | .refreshed _ status => ∃ server, P server ∧ reportsRunning status = server.running ∧
      (server.running = true → ∃ listenAddr, server.listenAddr = some listenAddr ∧
        status.bind ServerStatus.listenAddr = some listenAddr)
  | .posting update => update.Tells P
  | _ => True

/-- What is under way to the header was true of servers that `P` holds of. -/
def Tab.Tells (P : ServerState → Prop) (s : Tab) : Prop :=
  s.dispatch.All (Worker.Tells P) (Update.Tells P)

theorem Update.Tells.imp {Q : ServerState → Prop} (hPQ : ∀ server, P server → Q server)
    {update : Update} (h : update.Tells P) : update.Tells Q := by
  cases update with
  | status coreOk coreStatus running listenAddr =>
      obtain ⟨server, hserver, htold⟩ := h
      exact ⟨server, hPQ server hserver, htold⟩
  | _ => trivial

theorem Worker.Tells.imp {Q : ServerState → Prop} (hPQ : ∀ server, P server → Q server)
    {worker : Worker} (h : worker.Tells P) : worker.Tells Q := by
  cases worker with
  | refreshed coreStatus status =>
      obtain ⟨server, hserver, htold⟩ := h
      exact ⟨server, hPQ server hserver, htold⟩
  | posting update => exact Update.Tells.imp hPQ h
  | _ => trivial

/-- A thread learns what is true when it asks, and passes it on. -/
theorem tells_advance {shared : Shared} (hsound : shared.core.Sound) {worker : Worker}
    (hnow : ∀ coreStatus, worker = .refreshingServer coreStatus → P shared.core.server)
    (h : worker.Tells P) : (worker.advance paths w shared).1.Tells P := by
  cases worker with
  | refreshingServer coreStatus =>
      obtain ⟨hrunning, haddress⟩ := serverStatus_tells paths w hsound
      refine ⟨shared.core.server, hnow coreStatus rfl, hrunning, fun hruns => ?_⟩
      obtain ⟨listenAddr, hlisten⟩ := Option.isSome_iff_exists.mp (hsound.address hruns)
      exact ⟨listenAddr, hlisten, (haddress hruns).trans hlisten⟩
  | refreshed coreStatus status =>
      obtain ⟨server, hserver, hrunning, haddress⟩ := h
      refine ⟨server, hserver, hrunning, fun hruns => ?_⟩
      obtain ⟨listenAddr, hlisten, hstatus⟩ := haddress hruns
      rw [hlisten, hstatus]
      rfl
  | posting update => exact h
  | _ => trivial

namespace Tab

/-- No dispatch but that of a spawned thread, which has nothing to tell yet. -/
theorem Tells.spawn (h : s.Tells P) {block : Worker} (hblock : block.Tells P) :
    (s.runBackground block).Tells P :=
  Dispatch.All.spawn h hblock

theorem Tells.worker (h : s.Tells P) (hsound : s.shared.core.Sound) {thread : Nat}
    (hnow : ∀ coreStatus, s.dispatch.worker? thread = some (.refreshingServer coreStatus) →
      P s.shared.core.server)
    (hstep : s.workerStep paths thread w = some s') : s'.Tells P := by
  cases workerMove_of_step hstep with
  | posts update hworker =>
      have hposting : (Worker.posting update).Tells P := Dispatch.All.worker h hworker
      exact Dispatch.All.post h hposting
  | advances worker hworker hnot =>
      refine Dispatch.All.advance h (tells_advance hsound (fun coreStatus hrefreshing => ?_)
        (Dispatch.All.worker h hworker))
      exact hnow coreStatus (hrefreshing ▸ hworker)

theorem Tells.update (h : s.Tells P) (hstep : s.step paths .update = some s') : s'.Tells P := by
  obtain ⟨⟨update, d⟩, htake, rfl⟩ := Option.map_eq_some_iff.mp hstep
  have hrest : ({ s with dispatch := d } : Tab).Tells P := (Dispatch.All.taken h htake).2
  cases update with
  | status coreOk coreStatus running listenAddr => cases coreOk <;> cases running <;> exact hrest
  | outputAndRefresh message => exact hrest.spawn trivial
  | output message => exact hrest
  | fingerprint message => exact hrest
  | response response => exact hrest

/-- **A step keeps the statuses under way true**, if what a thread asks for now is. -/
theorem Tells.step (h : s.Tells P) (hsound : s.shared.core.Sound) {event : TabEvent}
    (hnow : ∀ thread w coreStatus, event = .worker thread w →
      s.dispatch.worker? thread = some (.refreshingServer coreStatus) → P s.shared.core.server)
    (hstep : s.step paths event = some s') : s'.Tells P := by
  cases event with
  | worker thread w => exact h.worker hsound (fun coreStatus => hnow thread w coreStatus rfl) hstep
  | update => exact h.update hstep
  | addNotify | refreshStatus | refreshCore =>
      rw [← Option.some.inj hstep]
      exact h.spawn trivial
  | tick | startServer _ | stopServer | computeJa4 _ | computeJa3 _ | sendProxyRequest _ _ _ =>
      obtain ⟨-, hs'⟩ := Option.ite_none_right_eq_some.mp hstep
      rw [← Option.some.inj hs']
      exact h.spawn trivial
  | showProfileDetails selectedItem =>
      rw [← Option.some.inj hstep]
      cases selectedItem with
      | none => exact h
      | some name => exact h.spawn trivial
  | removeNotify | clear _ | clearResult | elsewhere _ _ | settings _ =>
      rw [← Option.some.inj hstep]
      exact h

end Tab

/-! ### The header -/

/-- The header says that the server is like this. -/
structure StatusBar.Shows (bar : StatusBar) (server : ServerState) : Prop where
  dot : bar.proxyDot = if server.running then .green else .red
  text : bar.proxyStatus
    = if server.running then "RUNNING on " ++ server.listenAddr.getD [] else "STOPPED"

/-- The header says so, and the button that goes with it is the one enabled. -/
structure Tab.Shows (s : Tab) (server : ServerState) : Prop where
  bar : s.statusBar.Shows server
  start : s.buttons.start = !server.running
  stop : s.buttons.stop = server.running

/-- What a step can do to the header and its buttons. -/
inductive HeaderMove (s s' : Tab) : Prop
  | shows (h : ∀ P, s.Tells P → ∃ server, P server ∧ s'.Shows server)
  | keeps (hbar : s'.statusBar = s.statusBar) (hstart : s'.buttons.start = s.buttons.start)
      (hstop : s'.buttons.stop = s.buttons.stop) (hcount : s.count .status ≤ s'.count .status)
  | disables (hbar : s'.statusBar = s.statusBar) (hstart : s'.buttons.start = false)
      (hstop : s'.buttons.stop = false) (hcount : 0 < s'.count .status)

theorem shows_applyStatus (s : Tab) (coreOk : Bool) (coreStatus : Str) {running : Bool}
    {listenAddr : Str} {server : ServerState} (hrunning : running = server.running)
    (haddress : server.running = true → server.listenAddr = some listenAddr) :
    (s.applyUpdate (.status coreOk coreStatus running listenAddr)).Shows server := by
  cases hruns : server.running with
  | true =>
      have hlisten := haddress hruns
      rw [hrunning, hruns]
      refine ⟨⟨?_, ?_⟩, ?_, ?_⟩
      · rw [hruns]
        rfl
      · rw [hruns, hlisten]
        rfl
      · rw [hruns]
        rfl
      · rw [hruns]
        rfl
  | false =>
      rw [hrunning, hruns]
      refine ⟨⟨?_, ?_⟩, ?_, ?_⟩ <;>
      · rw [hruns]
        rfl

theorem headerMove_of_update (h : s.step paths .update = some s') : HeaderMove s s' := by
  obtain ⟨⟨update, d⟩, htake, rfl⟩ := Option.map_eq_some_iff.mp h
  have hcount := count_update htake .status
  cases update with
  | status coreOk coreStatus running listenAddr =>
      refine .shows fun P hP => ?_
      obtain ⟨server, hserver, hrunning, haddress⟩ := (Dispatch.All.taken hP htake).1
      exact ⟨server, hserver, shows_applyStatus _ coreOk coreStatus hrunning haddress⟩
  | outputAndRefresh message =>
      refine .keeps rfl rfl rfl ?_
      -- the refresh it starts takes its place
      have hspawn := Tab.count_runBackground
        (({ s with dispatch := d } : Tab).setOutput message) .refreshing .status
      exact Nat.le_of_eq (hcount.symm.trans hspawn.symm)
  | output message => exact .keeps rfl rfl rfl (Nat.le_of_eq hcount.symm)
  | fingerprint message => exact .keeps rfl rfl rfl (Nat.le_of_eq hcount.symm)
  | response response => exact .keeps rfl rfl rfl (Nat.le_of_eq hcount.symm)

/-- A thread is started, and header and buttons stay as they are. -/
theorem HeaderMove.spawn {block : Worker} (hdispatch : s'.dispatch = s.dispatch.spawn block)
    (hbar : s'.statusBar = s.statusBar) (hstart : s'.buttons.start = s.buttons.start)
    (hstop : s'.buttons.stop = s.buttons.stop) : HeaderMove s s' := by
  refine .keeps hbar hstart hstop ?_
  rw [Tab.count_of_spawn hdispatch]
  exact Nat.le_add_right _ _

theorem headerMove_of_step {event : TabEvent} (h : s.step paths event = some s') :
    HeaderMove s s' := by
  cases event with
  | worker thread w =>
      have hcount := count_workerStep h .status
      cases workerMove_of_step h with
      | posts update hworker => exact .keeps rfl rfl rfl (Nat.le_of_eq hcount.symm)
      | advances worker hworker hnot => exact .keeps rfl rfl rfl (Nat.le_of_eq hcount.symm)
  | update => exact headerMove_of_update h
  | addNotify | refreshStatus | refreshCore =>
      rw [← Option.some.inj h]
      exact .spawn rfl rfl rfl rfl
  | tick | computeJa4 _ | computeJa3 _ | sendProxyRequest _ _ _ =>
      obtain ⟨-, hs'⟩ := Option.ite_none_right_eq_some.mp h
      rw [← Option.some.inj hs']
      exact .spawn rfl rfl rfl rfl
  | startServer text =>
      obtain ⟨-, hs'⟩ := Option.ite_none_right_eq_some.mp h
      rw [← Option.some.inj hs']
      have hcount : (s.onStartServer text).count .status = s.count .status + 1 :=
        Tab.count_runBackground _ _ _
      exact .disables rfl rfl rfl (hcount ▸ Nat.succ_pos _)
  | stopServer =>
      obtain ⟨-, hs'⟩ := Option.ite_none_right_eq_some.mp h
      rw [← Option.some.inj hs']
      have hcount : s.onStopServer.count .status = s.count .status + 1 :=
        Tab.count_runBackground _ _ _
      exact .disables rfl rfl rfl (hcount ▸ Nat.succ_pos _)
  | showProfileDetails selectedItem =>
      rw [← Option.some.inj h]
      cases selectedItem with
      | none => exact .keeps rfl rfl rfl (Nat.le_refl _)
      | some name => exact .spawn rfl rfl rfl rfl
  | removeNotify | clear _ | clearResult | elsewhere _ _ | settings _ =>
      rw [← Option.some.inj h]
      exact .keeps rfl rfl rfl (Nat.le_refl _)

/-! ### What the header has been told -/

/-- The header is as it was constructed, or shows a server that `P` holds of; if a button is
enabled that goes with the other state, it is not. -/
def Tab.HeaderTold (P : ServerState → Prop) (s : Tab) : Prop :=
  (s.statusBar.proxyDot = .grey ∧ s.statusBar.proxyStatus = "checking…") ∨
    ∃ server, P server ∧ s.statusBar.Shows server ∧
      (s.buttons.start = true → server.running = false) ∧
      (s.buttons.stop = true → server.running = true)

theorem Tab.HeaderTold.step (h : s.HeaderTold P) (htells : s.Tells P) (hmove : HeaderMove s s') :
    s'.HeaderTold P := by
  cases hmove with
  | shows hshows =>
      obtain ⟨server, hserver, hshown⟩ := hshows P htells
      refine Or.inr ⟨server, hserver, hshown.bar, fun hstart => ?_, fun hstop => ?_⟩
      · rw [hshown.start, Bool.not_eq_true'] at hstart
        exact hstart
      · rw [hshown.stop] at hstop
        exact hstop
  | keeps hbar hstart hstop hcount =>
      unfold Tab.HeaderTold
      rw [hbar, hstart, hstop]
      exact h
  | disables hbar hstart hstop hcount =>
      unfold Tab.HeaderTold
      rw [hbar, hstart, hstop]
      rcases h with hnew | ⟨server, hserver, hshown, -, -⟩
      · exact Or.inl hnew
      · exact Or.inr ⟨server, hserver, hshown, fun hfalse => absurd hfalse Bool.false_ne_true,
          fun hfalse => absurd hfalse Bool.false_ne_true⟩

/-- A status is under way, or the header shows a server that `P` holds of. -/
def Tab.Caught (P : ServerState → Prop) (s : Tab) : Prop :=
  0 < s.count .status ∨ ∃ server, P server ∧ s.Shows server

theorem Tab.Caught.step (h : s.Caught P) (htells : s.Tells P) (hmove : HeaderMove s s') :
    s'.Caught P := by
  cases hmove with
  | shows hshows => exact Or.inr (hshows P htells)
  | keeps hbar hstart hstop hcount =>
      rcases h with hpositive | ⟨server, hserver, hshown⟩
      · exact Or.inl (Nat.lt_of_lt_of_le hpositive hcount)
      · exact Or.inr ⟨server, hserver, hbar ▸ hshown.bar, hstart.trans hshown.start,
          hstop.trans hshown.stop⟩
  | disables hbar hstart hstop hcount => exact Or.inl hcount

theorem Tab.HeaderTold.imp {Q : ServerState → Prop} (hPQ : ∀ server, P server → Q server)
    (h : s.HeaderTold P) : s.HeaderTold Q := by
  rcases h with hnew | ⟨server, hserver, hshown⟩
  · exact Or.inl hnew
  · exact Or.inr ⟨server, hPQ server hserver, hshown⟩

/-! ### Whole runs -/

/-- One of the tab's threads asked the core in this history, and the server was like this. -/
def Asked (paths : LoaderPaths) (s₀ : Tab) (events : List TabEvent) (server : ServerState) :
    Prop :=
  ∃ before thread w after u coreStatus, events = before ++ .worker thread w :: after ∧
    (tabMachine paths).run s₀ before = some u ∧
    u.dispatch.worker? thread = some (.refreshingServer coreStatus) ∧
    u.shared.core.server = server

theorem Asked.append {s₀ : Tab} {events : List TabEvent} {server : ServerState}
    (h : Asked paths s₀ events server) (event : TabEvent) :
    Asked paths s₀ (events ++ [event]) server := by
  obtain ⟨before, thread, w, after, u, coreStatus, hevents, hasked⟩ := h
  refine ⟨before, thread, w, after ++ [event], u, coreStatus, ?_, hasked⟩
  rw [hevents, List.append_assoc, List.cons_append]

variable {p : Preferences} {loader : NativeLoader} {output : Str} {events : List TabEvent}

theorem steady_of_run (hrun : (tabMachine paths).run (.init p loader output) events = some s) :
    s.Steady :=
  Machine.run_invariant (P := Tab.Steady) (fun _ _ _ inv h => inv.step h)
    (Tab.Steady.init p loader output) hrun

theorem tells_init : (Tab.init p loader output).Tells P :=
  Dispatch.All.spawn Dispatch.All.empty trivial

/-- **The header shows an answer of the core.**  At any time, whatever threads overtake each other,
the header is as it was constructed, or it shows how the server was when one of the tab's threads
asked; and *Start* is enabled only if it was stopped then, *Stop* only if it ran. -/
theorem header_told (hrun : (tabMachine paths).run (.init p loader output) events = some s) :
    s.HeaderTold (Asked paths (.init p loader output) events) := by
  have hhistory : (tabMachine paths).run (.init p loader output) events = some s ∧
      s.Tells (Asked paths (.init p loader output) events) ∧
      s.HeaderTold (Asked paths (.init p loader output) events) := by
    refine Machine.run_history (P := fun past u =>
      (tabMachine paths).run (.init p loader output) past = some u ∧
      u.Tells (Asked paths (.init p loader output) past) ∧
      u.HeaderTold (Asked paths (.init p loader output) past))
      ⟨rfl, tells_init, Or.inl ⟨rfl, rfl⟩⟩ ?_ hrun
    intro past u event u' hpast hstep
    obtain ⟨hrun, htells, hheader⟩ := hpast
    have hlater : ∀ server, Asked paths (.init p loader output) past server →
        Asked paths (.init p loader output) (past ++ [event]) server :=
      fun server hasked => hasked.append event
    have htells' : u.Tells (Asked paths (.init p loader output) (past ++ [event])) :=
      Dispatch.All.imp htells (fun _ h => h.imp hlater) (fun _ h => h.imp hlater)
    refine ⟨Machine.run_snoc hrun hstep, ?_, ?_⟩
    · refine htells'.step (steady_of_run hrun).core ?_ hstep
      intro thread w coreStatus hevent hworker
      exact ⟨past, thread, w, [], u, coreStatus, by rw [hevent], hrun, hworker, rfl⟩
    · exact (hheader.imp hlater).step htells' (headerMove_of_step hstep)
  exact hhistory.2.2

/-- Every run has come to a state where a status is under way or has been shown. -/
theorem caught_of_run (hrun : (tabMachine paths).run (.init p loader output) events = some s) :
    s.Caught fun _ => True := by
  have hboth : s.Steady ∧ s.Tells (fun _ => True) ∧ s.Caught fun _ => True := by
    refine Machine.run_invariant (P := fun u => u.Steady ∧ u.Tells (fun _ => True) ∧
      u.Caught fun _ => True) (fun u event u' hu hstep => ?_)
      ⟨.init p loader output, tells_init, Or.inl (Nat.succ_pos 0)⟩ hrun
    obtain ⟨hsteady, htells, hcaught⟩ := hu
    exact ⟨hsteady.step hstep, htells.step hsteady.core (fun _ _ _ _ _ => trivial) hstep,
      hcaught.step htells (headerMove_of_step hstep)⟩
  exact hboth.2.2

/-- **The tab comes to rest, and its buttons come back.**  Some threads may be at calls that do not
return.  From every reachable state the others and the updates under way have a known number of
steps to go, and one of them can always go on; at most one fingerprint and one response are on
their way.  Once nothing else is, each stalled thread keeps off no more than the buttons of its own
errand: the buttons that compute and the one that sends are enabled unless it is one of those, and
of *Start* and *Stop* the one that goes with the header unless it is a status. -/
theorem tab_settles (hrun : (tabMachine paths).run (.init p loader output) events = some s)
    (stalled : List Nat) (hstalled : ∀ i ∈ stalled, i < s.dispatch.workers.length) :
    (∀ more t, (∀ e ∈ more, TabEvent.Settles stalled e) → (tabMachine paths).run s more = some t →
      (t.besides stalled).steps + more.length = (s.besides stalled).steps) ∧
    (¬(s.besides stalled).dispatch.Idle → CallWorld → ∃ e s', TabEvent.Settles stalled e ∧
      (tabMachine paths).step s e = some s') ∧
    s.count .fingerprint ≤ 1 ∧ s.count .response ≤ 1 ∧
    ((s.besides stalled).dispatch.Idle →
      (s.buttons.computeJa4 = true ↔ ¬s.OnErrand stalled .fingerprint) ∧
      s.buttons.computeJa3 = s.buttons.computeJa4 ∧
      (s.buttons.sendRequest = true ↔ ¬s.OnErrand stalled .response) ∧
      (¬s.OnErrand stalled .status → ∃ server : ServerState, s.Shows server)) := by
  have inv := steady_of_run hrun
  refine ⟨fun more t => steps_of_settling hstalled, fun hbusy w => settles_of_not_idle hbusy w,
    ?_, ?_, fun hidle => ⟨?_, inv.together, ?_, fun hnone => ?_⟩⟩
  · rw [inv.computing]
    split <;> omega
  · rw [inv.sending]
    split <;> omega
  · rw [← count_eq_zero_iff hidle, inv.computing]
    simp
  · rw [← count_eq_zero_iff hidle, inv.sending]
    simp
  · have hzero := (count_eq_zero_iff hidle .status).mpr hnone
    rcases caught_of_run hrun with hpositive | ⟨server, -, hshown⟩
    · omega
    · exact ⟨server, hshown⟩

/-- A library that answers nothing but its version. -/
def sampleLibrary : NativeLibrary where
  ja3CalculateClientHello _ := .error ⟨none⟩
  ja4CalculateClientHello _ := .error ⟨none⟩
  tlsplusVersion := .ok "0.1.0"
  engineInfo := .error ⟨none⟩
  availableProfiles := .error ⟨none⟩
  getTlsProfile _ := .error ⟨none⟩
  proxySendRequest _ := .error ⟨none⟩

def sampleCall : CallWorld := ⟨bundledLibrary, sampleLibrary, loopbackWorld, true, [], fun _ => []⟩

/-- The thread that is started on construction, and its update. -/
def firstRefresh : List TabEvent := List.replicate 4 (.worker 0 sampleCall) ++ [.update]

/-- After the first refresh the server is started elsewhere. -/
def startedElsewhere : List TabEvent :=
  firstRefresh ++ [.elsewhere sampleCall (.start "127.0.0.1:0")]

/-- The header still shows what its thread was told. -/
theorem header_told_stale : ∃ s,
    (tabMachine samplePaths).run (.init .empty ⟨false, none⟩ []) startedElsewhere = some s ∧
      s.statusBar.proxyStatus = "STOPPED" ∧ s.shared.core.server.running = true ∧
      s.HeaderTold (Asked samplePaths (.init .empty ⟨false, none⟩ []) startedElsewhere) := by
  have hends : ((tabMachine samplePaths).run (.init .empty ⟨false, none⟩ [])
      startedElsewhere).map (fun s => (s.statusBar.proxyStatus, s.shared.core.server.running))
      = some (("STOPPED" : Str), true) := by decide
  obtain ⟨s, hrun, hs⟩ := Option.map_eq_some_iff.mp hends
  rw [Prod.mk.injEq] at hs
  exact ⟨s, hrun, hs.1, hs.2, header_told hrun⟩

/-- A request is sent and does not come back.  The header is brought up to date all the same, and a
fingerprint is asked for. -/
def stalledRequest : List TabEvent :=
  .sendProxyRequest none "https://a.example/" none :: firstRefresh ++ [.computeJa4 "1603"]

/-- The fingerprint will be there in three steps, and only *Send Request* stays off. -/
theorem tab_settles_stalled : ∃ s,
    (tabMachine samplePaths).run (.init .empty ⟨false, none⟩ []) stalledRequest = some s ∧
      s.buttons = ⟨true, false, false, false, false⟩ ∧ (s.besides [1]).steps = 3 ∧
      ∀ more t, (∀ e ∈ more, TabEvent.Settles [1] e) →
        (tabMachine samplePaths).run s more = some t →
        (t.besides [1]).steps + more.length = 3 := by
  have hends : ((tabMachine samplePaths).run (.init .empty ⟨false, none⟩ [])
      stalledRequest).map (fun s => (s.buttons, (s.besides [1]).steps, s.dispatch.workers.length))
      = some (⟨true, false, false, false, false⟩, 3, 3) := by decide
  obtain ⟨s, hrun, hs⟩ := Option.map_eq_some_iff.mp hends
  simp only [Prod.mk.injEq] at hs
  obtain ⟨hbuttons, hsteps, hlength⟩ := hs
  have hstalled : ∀ i ∈ [1], i < s.dispatch.workers.length := by simp [hlength]
  exact ⟨s, hrun, hbuttons, hsteps, hsteps ▸ (tab_settles hrun [1] hstalled).1⟩

/-! ### Catching up -/

/-- What ends in a refresh of the header. -/
def TabEvent.Refreshes : TabEvent → Prop
  | .addNotify => True
  | .tick => True
  | .refreshStatus => True
  | .refreshCore => True
  | .startServer _ => True
  | .stopServer => True
  | _ => False

theorem count_of_refreshes {event : TabEvent} (hevent : event.Refreshes)
    (h : s.step paths event = some s') : 0 < s'.count .status := by
  have hspawn : ∀ (t : Tab) (block : Worker), block.errand = .status →
      0 < (t.runBackground block).count .status := by
    intro t block hblock
    rw [Tab.count_runBackground, if_pos hblock]
    exact Nat.succ_pos _
  cases event with
  | addNotify | refreshStatus | refreshCore =>
      rw [← Option.some.inj h]
      exact hspawn _ _ rfl
  | tick | startServer _ | stopServer =>
      obtain ⟨-, hs'⟩ := Option.ite_none_right_eq_some.mp h
      rw [← Option.some.inj hs']
      exact hspawn _ _ rfl
  | _ => exact hevent.elim

/-- As long as the server is the same, what is under way stays true of it, and a refresh is not
lost. -/
theorem caught_along {server : ServerState} : ∀ {events : List TabEvent} {s t : Tab},
    s.Steady → s.Tells (· = server) →
    (tabMachine paths).Along (fun u => u.shared.core.server = server) s events →
    (tabMachine paths).run s events = some t →
    (s.Caught (· = server) ∨ ∃ e ∈ events, TabEvent.Refreshes e) → t.Caught (· = server) := by
  intro events
  induction events with
  | nil =>
      intro s t _ _ _ hrun hcaught
      rw [Machine.run_nil, Option.some.injEq] at hrun
      rcases hcaught with hcaught | ⟨e, he, -⟩
      · exact hrun ▸ hcaught
      · exact absurd he List.not_mem_nil
  | cons e rest ih =>
      intro s t hsteady htells halong hrun hcaught
      obtain ⟨u, hstep, hrest⟩ := (Machine.run_cons_eq_some _).mp hrun
      have htells' : u.Tells (· = server) :=
        htells.step hsteady.core (fun _ _ _ _ _ => halong.1) hstep
      refine ih (hsteady.step hstep) htells' (halong.2 u hstep) hrest ?_
      rcases hcaught with hcaught | ⟨f, hf, hrefreshes⟩
      · exact Or.inl (hcaught.step htells (headerMove_of_step hstep))
      · rcases List.mem_cons.mp hf with rfl | hlater
        · exact Or.inl (Or.inl (count_of_refreshes hrefreshes hstep))
        · exact Or.inr ⟨f, hlater, hrefreshes⟩

/-- **The header catches up.**  Take the tab at rest, with any header.  If the server stays as it
is, then whatever else happens on the tab, once it is at rest again and there was a refresh, of the
timer or of anything else, the header and its buttons show the server as it is. -/
theorem header_catches_up {more : List TabEvent} {t : Tab}
    (hrun : (tabMachine paths).run (.init p loader output) events = some s)
    (hidle : s.dispatch.Idle) (hmore : (tabMachine paths).run s more = some t)
    (hsame : (tabMachine paths).Along
      (fun u => u.shared.core.server = s.shared.core.server) s more)
    (hrefresh : ∃ e ∈ more, TabEvent.Refreshes e) (hrest : t.dispatch.Idle) :
    t.Shows s.shared.core.server := by
  have hcaught := caught_along (steady_of_run hrun) (Dispatch.All.of_idle hidle) hsame hmore
    (Or.inr hrefresh)
  rcases hcaught with hpositive | ⟨server, rfl, hshown⟩
  · rw [Tab.count_of_idle hrest] at hpositive
    exact absurd hpositive (Nat.lt_irrefl 0)
  · exact hshown

/-- A refresh by the second thread. -/
def secondRefresh : List TabEvent :=
  .refreshStatus :: List.replicate 4 (.worker 1 sampleCall) ++ [.update]

/-- The header shows a stopped server until it is refreshed. -/
theorem header_catches_up_elsewhere : ∃ s t,
    (tabMachine samplePaths).run (.init .empty ⟨false, none⟩ []) startedElsewhere = some s ∧
      (tabMachine samplePaths).run s secondRefresh = some t ∧
      s.statusBar.proxyStatus = "STOPPED" ∧
      t.statusBar.proxyStatus = "RUNNING on 127.0.0.1:8080" ∧
      t.Shows s.shared.core.server := by
  have hends : ((tabMachine samplePaths).run (.init .empty ⟨false, none⟩ [])
      startedElsewhere).map (fun s => (s.statusBar.proxyStatus, decide s.dispatch.Idle,
        ((tabMachine samplePaths).run s secondRefresh).map fun t =>
          (t.statusBar.proxyStatus, decide t.dispatch.Idle)))
      = some (("STOPPED" : Str), true, some (("RUNNING on 127.0.0.1:8080" : Str), true)) := by
    decide
  obtain ⟨s, hrun, hs⟩ := Option.map_eq_some_iff.mp hends
  simp only [Prod.mk.injEq] at hs
  obtain ⟨hstale, hidle, hrest⟩ := hs
  obtain ⟨t, hmore, ht⟩ := Option.map_eq_some_iff.mp hrest
  rw [Prod.mk.injEq] at ht
  refine ⟨s, t, hrun, hmore, hstale, ht.1, header_catches_up hrun (of_decide_eq_true hidle) hmore ?_
    ⟨.refreshStatus, by simp [secondRefresh], trivial⟩ (of_decide_eq_true ht.2)⟩
  rw [← Option.some.inj hrun]
  exact .cons rfl rfl (.cons rfl rfl (.cons rfl rfl (.cons rfl rfl (.cons rfl rfl (.cons rfl rfl
    rfl)))))

end TlsPlus
