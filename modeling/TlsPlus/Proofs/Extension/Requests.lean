/-
Requests are redirected to the live proxy or not at all.

The address that requests are sent to comes from the core and not from the settings,
so it does not matter what a setting asks for: a request is redirected exactly while
the mode is active and the server runs, and then to the loopback address the server
printed (`redirected_to_live_proxy`).  That the library is loaded need not be asked:
a server that runs was started through it, and it is never unloaded.
-/
import TlsPlus.Extension.Requests
import TlsPlus.Proofs.Extension.Endpoint
import TlsPlus.Proofs.Extension.NativeLoader
import TlsPlus.Proofs.Proxy.Server

namespace TlsPlus

variable {Message : Type} {k : Kotlin} {mo : Montoya Message} {paths : LoaderPaths}
  {lw : LoadWorld} {s s' : RunningExtension} {m : Message}

/-! ### The extension and its server -/

/-- A loopback address that is bound is reported with the port that was found, and without a
scope. -/
def StartWorld.Binds (w : StartWorld) : Prop :=
  ∀ addr bound, w.bind addr = .ok bound → addr.ip.isLoopback = true → bound.Listens

def UseEvent.Binds : UseEvent Message → Prop
  | .startServer _ w _ => w.Binds
  | _ => True

/-- The server is stopped, or runs with the library loaded and on an address it can be reached
at. -/
structure Reachable (s : RunningExtension) : Prop where
  server : s.server = ⟨false, none, none⟩ ∨ ∃ addr : SocketAddr, ∃ task, addr.Listens ∧
    s.server = ⟨true, some addr.display, some ⟨task⟩⟩
  loaded : s.server.running = true → s.loader.loaded = true

/-- A library that is loaded stays loaded, and a load that works leaves it loaded. -/
theorem loaded_ensureLoaded (paths : LoaderPaths) (lw : LoadWorld) (loader : NativeLoader) :
    (loader.loaded = true → ensureLoaded paths lw loader = ⟨loader, .ok (), [], []⟩) ∧
      ((ensureLoaded paths lw loader).result = .ok () →
        (ensureLoaded paths lw loader).loader.loaded = true) := by
  refine ⟨fun hloaded => if_pos hloaded, fun hok => ?_⟩
  generalize hensured : ensureLoaded paths lw loader = ensured at hok
  have hmove := loadMove paths lw loader
  rw [hensured] at hmove
  cases hmove with
  | already hloaded => exact hloaded
  | fails hloaded hw e log => exact absurd hok (by simp)
  | strands hloaded hw e => exact absurd hok (by simp)
  | loadsCopy hloaded hw log => rfl
  | loadsFound hloaded hw log => rfl

theorem Reachable.ensured (h : Reachable s) (lw : LoadWorld) (hrunning : s.server.running = true) :
    (ensureLoaded paths lw s.loader).loader.loaded = true := by
  rw [(loaded_ensureLoaded paths lw s.loader).1 (h.loaded hrunning)]
  exact h.loaded hrunning

/-- A start leaves the server as it was, or running where it was opened. -/
theorem startLocalServer_listens {w : StartWorld} (hbinds : w.Binds) {server : ServerState}
    (hstopped : server = ⟨false, none, none⟩) (listenAddr : Str) :
    (startLocalServer w server listenAddr).2 = server ∨
      ∃ addr : SocketAddr, ∃ task, addr.Listens ∧
        (startLocalServer w server listenAddr).2 = ⟨true, some addr.display, some ⟨task⟩⟩ := by
  have hnot : server.running = false := by rw [hstopped]
  rcases startLocalServer_cases w listenAddr hnot with
    ⟨-, message, hrefused⟩ | ⟨bound, message, hopened, hstarted⟩
  · exact Or.inl (by rw [hrefused])
  · refine Or.inr ⟨bound, w.task, ?_, by rw [hstarted]⟩
    obtain ⟨addr, -, -, hloopback, hbind⟩ := openedBy_eq_some.mp hopened
    exact hbinds addr bound hbind hloopback

theorem reachable_start (h : Reachable s) {w : StartWorld} (hbinds : w.Binds) (lw : LoadWorld)
    (listenAddr : Str) : Reachable (s.startServer paths lw w listenAddr) := by
  cases hresult : (ensureLoaded paths lw s.loader).result with
  | error e =>
      simp only [RunningExtension.startServer, hresult]
      exact ⟨h.server, h.ensured lw⟩
  | ok _ =>
      have hloaded := (loaded_ensureLoaded paths lw s.loader).2 hresult
      simp only [RunningExtension.startServer, hresult]
      refine ⟨?_, fun _ => hloaded⟩
      simp only [coreStartServer]
      rcases h.server with hstopped | ⟨addr, task, haddr, hrunning⟩
      · rcases startLocalServer_listens hbinds hstopped listenAddr with hsame | hopened
        · exact Or.inl (hsame.trans hstopped)
        · exact Or.inr hopened
      · rw [startLocalServer_running w listenAddr (by rw [hrunning])]
        exact Or.inr ⟨addr, task, haddr, hrunning⟩

/-- What the core says of its server: nothing if the library cannot be loaded. -/
theorem coreServerStatus_cases (paths : LoaderPaths) (lw : LoadWorld) (loader : NativeLoader)
    (server : ServerState) :
    (coreServerStatus paths lw loader server).2 = (ensureLoaded paths lw loader).loader ∧
      ((coreServerStatus paths lw loader server).1 = none ∧ loader.loaded = false ∨
        (coreServerStatus paths lw loader server).1 = some (serverStatus (some server))) := by
  cases hresult : (ensureLoaded paths lw loader).result with
  | error e =>
      simp only [coreServerStatus, hresult]
      refine ⟨trivial, Or.inl ⟨trivial, ?_⟩⟩
      by_contra hloaded
      rw [Bool.not_eq_false] at hloaded
      rw [(loaded_ensureLoaded paths lw loader).1 hloaded] at hresult
      exact absurd hresult (by simp)
  | ok _ =>
      simp only [coreServerStatus, hresult]
      exact ⟨trivial, Or.inr trivial⟩

theorem reachable_request (h : Reachable s) (lw : LoadWorld) (m : Message) :
    Reachable (s.onRequest k mo paths lw m).2 := by
  unfold RunningExtension.onRequest
  split
  · exact h
  · refine ⟨h.server, fun hrunning => ?_⟩
    show (coreServerStatus paths lw s.loader s.server).2.loaded = true
    rw [(coreServerStatus_cases paths lw s.loader s.server).1]
    exact h.ensured lw hrunning

theorem reachable_step {event : UseEvent Message} (h : Reachable s) (hbinds : event.Binds)
    (hstep : (useMachine k mo paths).step s event = some s') : Reachable s' := by
  rw [← Option.some.inj hstep]
  cases event with
  | change preferences => exact ⟨h.server, h.loaded⟩
  | startServer lw w listenAddr => exact reachable_start h hbinds lw listenAddr
  | stopServer lw completed =>
      cases hresult : (ensureLoaded paths lw s.loader).result with
      | error e =>
          simp only [RunningExtension.stopServer, hresult]
          exact ⟨h.server, h.ensured lw⟩
      | ok _ =>
          have hserver : (stopLocalServer completed s.server).2 = ⟨false, none, none⟩ :=
            stopLocalServer_snd completed s.server
          simp only [RunningExtension.stopServer, hresult, hserver]
          exact ⟨Or.inl rfl, fun hrunning => absurd hrunning (by simp)⟩
  | request lw m => exact reachable_request h lw m

theorem reachable_of_run {preferences : Preferences} {jnaLibraryPath : Option Str}
    {events : List (UseEvent Message)} (hbinds : ∀ event ∈ events, event.Binds)
    (hrun : (useMachine k mo paths).run (.init preferences jnaLibraryPath) events = some s) :
    Reachable s := by
  have hinit : Reachable (.init preferences jnaLibraryPath) :=
    ⟨Or.inl rfl, fun h => absurd h (by simp [RunningExtension.init, ServerState.init])⟩
  exact Machine.run_invariant_of (P := Reachable)
    (fun _ _ _ h hQ hstep => reachable_step h hQ hstep) hbinds hinit hrun

/-! ### A request -/

/-- The message is for the server that listens here. -/
def IsForProxy (k : Kotlin) (mo : Montoya Message) (addr : SocketAddr) (m : Message) : Prop :=
  (mo.httpService m).port = addr.port.toNat ∧ IsProxyHost k addr.ip.text (mo.httpService m).host

/-- What becomes of a request while no server runs. -/
theorem onRequest_of_stopped (h : s.server.running = false) :
    (s.onRequest k mo paths lw m).1 = m := by
  unfold RunningExtension.onRequest
  split
  · rfl
  · have hendpoint : proxyEndpoint (coreServerStatus paths lw s.loader s.server).1 = none := by
      rcases (coreServerStatus_cases paths lw s.loader s.server).2 with ⟨hnone, -⟩ | hsome
      · rw [hnone]
        rfl
      · rw [hsome]
        simp [proxyEndpoint, serverStatus, h]
    show handleHttpRequestToBeSent k mo s.preferences _ m = m
    rw [hendpoint]
    unfold handleHttpRequestToBeSent redirected
    split <;> rfl

/-- And while one does: the handler is told of its address. -/
theorem onRequest_of_running (h : Reachable s) {addr : SocketAddr} {task : Nat}
    (hserver : s.server = ⟨true, some addr.display, some ⟨task⟩⟩)
    (hactive : s.preferences.passThroughOnly = false) :
    (s.onRequest k mo paths lw m).1
      = handleHttpRequestToBeSent k mo s.preferences (some addr.display) m := by
  have hrunning : s.server.running = true := by rw [hserver]
  have hloaded := h.loaded hrunning
  have hendpoint : proxyEndpoint (coreServerStatus paths lw s.loader s.server).1
      = some addr.display := by
    rcases (coreServerStatus_cases paths lw s.loader s.server).2 with ⟨-, hnot⟩ | hsome
    · exact absurd hloaded (by simp [hnot])
    · rw [hsome, hserver]
      rfl
  unfold RunningExtension.onRequest
  rw [if_neg (by simp [hactive])]
  show handleHttpRequestToBeSent k mo s.preferences _ m = _
  rw [hendpoint]

/-- A request made for the server's address is for the server. -/
theorem isForProxy_of_service (hk : k.Lawful) {addr : SocketAddr} (haddr : addr.Listens)
    (h : mo.httpService m = ⟨addr.ip.text, addr.port.toNat, false⟩) : IsForProxy k mo addr m := by
  unfold IsForProxy
  rw [h]
  refine ⟨rfl, Or.inl ?_⟩
  rcases haddr.cases with ⟨hv4, -⟩ | ⟨htext, -⟩
  · exact hv4.normalizeHost hk
  · rw [htext]
    exact normalizeHost_loopbackV6 hk

/-- What becomes of a request while the server runs at this address. -/
theorem handled_at (hk : k.Lawful) (hmo : mo.Routes) {addr : SocketAddr} (haddr : addr.Listens)
    {settings : Preferences} (hactive : settings.passThroughOnly = false) (m : Message) :
    IsForProxy k mo addr m ∧
        handleHttpRequestToBeSent k mo settings (some addr.display) m = m ∨
      ¬IsForProxy k mo addr m ∧
        mo.httpService (handleHttpRequestToBeSent k mo settings (some addr.display) m)
          = ⟨addr.ip.text, addr.port.toNat, false⟩ ∧
        handleHttpRequestToBeSent k mo settings (some addr.display) m ≠ m := by
  have hparse := parseProxyAddr_display hk haddr
  have hguard : sameEndpointHost k (mo.httpService m).host addr.ip.text = true ∧
      (mo.httpService m).port = addr.port.toNat ↔ IsForProxy k mo addr m := by
    rw [sameEndpointHost_iff hk haddr, and_comm]
    rfl
  by_cases hself : IsForProxy k mo addr m
  · exact Or.inl ⟨hself, handled_of_self hparse (hguard.mpr hself)⟩
  · have hservice := handled_of_other (m := m) hmo hactive hparse (fun h => hself (hguard.mp h))
    refine Or.inr ⟨hself, hservice, fun hsame => hself ?_⟩
    rw [hsame] at hservice
    exact isForProxy_of_service hk haddr hservice

/-- **Requests go to the live proxy, or where they were going.**  However the settings were changed,
the server started and stopped and the library loaded, a request is either sent as it is, or made
for a loopback address at which the server runs at that time; the latter exactly if the mode is
active, the server runs, and the request is not for the server itself. -/
theorem redirected_to_live_proxy (hk : k.Lawful) (hmo : mo.Routes) {preferences : Preferences}
    {jnaLibraryPath : Option Str} {events : List (UseEvent Message)}
    (hbinds : ∀ event ∈ events, event.Binds)
    (hrun : (useMachine k mo paths).run (.init preferences jnaLibraryPath) events = some s)
    (lw : LoadWorld) (m : Message) :
    ((s.onRequest k mo paths lw m).1 ≠ m ↔
      s.preferences.passThroughOnly = false ∧ s.server.running = true ∧
        ∀ addr : SocketAddr, s.server.listenAddr = some addr.display → addr.Listens →
          ¬IsForProxy k mo addr m) ∧
    ((s.onRequest k mo paths lw m).1 ≠ m →
      ∃ addr : SocketAddr, addr.ip.isLoopback = true ∧ s.server.running = true ∧
        s.server.listenAddr = some addr.display ∧
        mo.httpService (s.onRequest k mo paths lw m).1
          = ⟨addr.ip.text, addr.port.toNat, false⟩) := by
  have hreachable := reachable_of_run hbinds hrun
  by_cases hactive : s.preferences.passThroughOnly = false
  · rcases hreachable.server with hstopped | ⟨addr, task, haddr, hrunning⟩
    · have hsame : (s.onRequest k mo paths lw m).1 = m := onRequest_of_stopped (by rw [hstopped])
      refine ⟨iff_of_false (fun hne => hne hsame) fun h => ?_, fun hne => absurd hsame hne⟩
      rw [hstopped] at h
      exact absurd h.2.1 (by simp)
    · rw [onRequest_of_running hreachable hrunning hactive, hrunning]
      rcases handled_at hk hmo haddr hactive m with ⟨hself, hsame⟩ | ⟨hother, hservice, hne⟩
      · exact ⟨iff_of_false (fun hne => hne hsame) fun h => h.2.2 addr rfl haddr hself,
          fun hne => absurd hsame hne⟩
      · refine ⟨iff_of_true hne ⟨hactive, rfl, fun addr' hdisplay haddr' hself => hother ?_⟩,
          fun _ => ⟨addr, haddr.loopback, rfl, rfl, hservice⟩⟩
        -- the text tells host and port, so it is the text of one address
        have hread := (parseProxyAddr_display hk haddr).symm.trans
          ((congrArg (parseProxyAddr k) (Option.some.inj hdisplay)).trans
            (parseProxyAddr_display hk haddr'))
        obtain ⟨htext, hport⟩ := Prod.mk.inj (Option.some.inj hread)
        unfold IsForProxy
        rw [htext, hport]
        exact hself
  · have hsame : (s.onRequest k mo paths lw m).1 = m := by
      unfold RunningExtension.onRequest
      rw [if_pos (Bool.not_eq_false _ |>.mp hactive)]
    exact ⟨iff_of_false (fun hne => hne hsame) fun h => hactive h.1, fun hne => absurd hsame hne⟩

/-! ### A history -/

/-- A machine with one loopback address, whose port 8080 is free. -/
def loopbackWorld : StartWorld :=
  { sampleStartWorld 0 with
    bind := fun addr =>
      if addr.ip = .v4 127 0 0 1 then .ok ⟨.v4 127 0 0 1, 8080⟩
      else .error "cannot assign requested address" }

theorem loopbackWorld_binds : loopbackWorld.Binds := by
  intro addr bound hbind _
  simp only [loopbackWorld] at hbind
  split at hbind
  · rw [← Except.ok.inj hbind]
    exact ⟨by decide, fun _ _ h => absurd h (by simp), by decide⟩
  · exact absurd hbind (by simp)

/-- The library is bundled and loads. -/
def bundledLibrary : LoadWorld := ⟨.ok true, .ok (), .ok (), .ok ()⟩

/-- A request is sent before the library can be loaded, the server is started, and then the setting
is changed to an address elsewhere. -/
def sampleUse : List (UseEvent SampleMessage) :=
  [.request brokenCopy hostileMessage, .startServer bundledLibrary loopbackWorld "127.0.0.1:0",
   .change (Preferences.empty.setServerListenAddr "10.0.0.1:80")]

/-- The next request is made for the server that runs. -/
theorem redirected_to_live_proxy_sample :
    ∃ s, (useMachine sampleKotlin sampleMontoya samplePaths).run (.init .empty none) sampleUse
        = some s ∧
      ∃ addr : SocketAddr, addr.ip.isLoopback = true ∧ s.server.running = true ∧
        s.server.listenAddr = some addr.display ∧
        sampleMontoya.httpService (s.onRequest sampleKotlin sampleMontoya samplePaths brokenCopy
          hostileMessage).1 = ⟨addr.ip.text, addr.port.toNat, false⟩ := by
  have hbinds : ∀ event ∈ sampleUse, event.Binds := by
    intro event hevent
    simp only [sampleUse, List.mem_cons, List.not_mem_nil, or_false] at hevent
    rcases hevent with rfl | rfl | rfl
    · trivial
    · exact loopbackWorld_binds
    · trivial
  obtain ⟨s, hrun⟩ : ∃ s, (useMachine sampleKotlin sampleMontoya samplePaths).run
      (.init .empty none) sampleUse = some s := ⟨_, rfl⟩
  have hservice : sampleMontoya.httpService (s.onRequest sampleKotlin sampleMontoya samplePaths
      brokenCopy hostileMessage).1 = ⟨"127.0.0.1", 8080, false⟩ := by
    rw [← Option.some.inj hrun]
    decide
  refine ⟨s, hrun, (redirected_to_live_proxy sampleKotlin_lawful sampleMontoya_routes hbinds hrun
    brokenCopy hostileMessage).2 fun hsame => ?_⟩
  rw [hsame] at hservice
  exact absurd hservice (by decide)

end TlsPlus
