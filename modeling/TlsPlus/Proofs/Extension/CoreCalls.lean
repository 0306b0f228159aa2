/-
What a use of the native core leaves behind.

The library stays loaded, and the server can run only with the library loaded: a start
comes after a load.  So a status that the core cannot tell is that of a stopped server
(`serverStatus_tells`), and taking it for one is right.
-/
import TlsPlus.Extension.CoreCalls
import TlsPlus.Proofs.Extension.Requests
import TlsPlus.Proofs.Proxy.Server

namespace TlsPlus

variable {paths : LoaderPaths} {w : CallWorld} {core : CoreState}

/-- If the server runs it has an address, and the library is loaded. -/
structure CoreState.Sound (core : CoreState) : Prop where
  address : core.server.running = true → core.server.listenAddr.isSome = true
  loaded : core.server.running = true → core.loader.loaded = true

/-- A use finds the library loaded or loads it, and then runs its block, or it finds neither
library nor running server. -/
theorem withNativeServer_cases {α : Type} (paths : LoaderPaths) (w : CallWorld) (h : core.Sound)
    (block : ServerState → Except Throwable α × ServerState) (fallback : Throwable → α) :
    (∃ e loader, core.server.running = false ∧
      withNativeServer paths w core block fallback = (fallback e, ⟨loader, core.server⟩)) ∨
    ∃ loader, loader.loaded = true ∧
      ((∃ e, (block core.server).1 = .error e ∧ withNativeServer paths w core block fallback
          = (fallback e, ⟨loader, (block core.server).2⟩)) ∨
        ∃ value, (block core.server).1 = .ok value ∧ withNativeServer paths w core block fallback
          = (value, ⟨loader, (block core.server).2⟩)) := by
  obtain ⟨hsame, hloads⟩ := loaded_ensureLoaded paths w.load core.loader
  unfold withNativeServer
  simp only
  cases hresult : (ensureLoaded paths w.load core.loader).result with
  | error e =>
      refine Or.inl ⟨e, _, ?_, rfl⟩
      by_contra hrunning
      rw [Bool.not_eq_false] at hrunning
      rw [hsame (h.loaded hrunning)] at hresult
      exact absurd hresult (by simp)
  | ok _ =>
      refine Or.inr ⟨_, hloads hresult, ?_⟩
      cases hblock : block core.server with
      | mk result server =>
          cases result with
          | error e => exact Or.inl ⟨e, rfl, rfl⟩
          | ok value => exact Or.inr ⟨value, rfl, rfl⟩

/-- What a use comes to: the fallback if there is no library, and then its block does not run; or
what the block comes to, or the fallback if that throws. -/
theorem value_withNativeServer {α : Type} (paths : LoaderPaths) (w : CallWorld) (core : CoreState)
    (block : ServerState → Except Throwable α × ServerState) (fallback : Throwable → α) :
    (∃ e, (ensureLoaded paths w.load core.loader).result = .error e ∧
      (withNativeServer paths w core block fallback).1 = fallback e) ∨
    (ensureLoaded paths w.load core.loader).result = .ok () ∧
      ((∃ e, (block core.server).1 = .error e ∧
        (withNativeServer paths w core block fallback).1 = fallback e) ∨
      ∃ value, (block core.server).1 = .ok value ∧
        (withNativeServer paths w core block fallback).1 = value) := by
  unfold withNativeServer
  simp only
  cases hresult : (ensureLoaded paths w.load core.loader).result with
  | error e => exact Or.inl ⟨e, rfl, rfl⟩
  | ok _ =>
      refine Or.inr ⟨rfl, ?_⟩
      cases hblock : block core.server with
      | mk result server =>
          cases result with
          | error e => exact Or.inl ⟨e, rfl, rfl⟩
          | ok value => exact Or.inr ⟨value, rfl, rfl⟩

/-- A use whose block leaves a running server with an address leaves the core sound. -/
theorem sound_withNativeServer {α : Type} (h : core.Sound)
    {block : ServerState → Except Throwable α × ServerState} (fallback : Throwable → α)
    (hblock : (block core.server).2.running = true →
      (block core.server).2.listenAddr.isSome = true) :
    (withNativeServer paths w core block fallback).2.Sound := by
  rcases withNativeServer_cases paths w h block fallback with
    ⟨e, loader, hstopped, huse⟩ | ⟨loader, hloaded, ⟨e, -, huse⟩ | ⟨value, -, huse⟩⟩
  · rw [huse]
    refine ⟨h.address, fun hrunning => ?_⟩
    rw [hstopped] at hrunning
    exact absurd hrunning Bool.false_ne_true
  · rw [huse]
    exact ⟨hblock, fun _ => hloaded⟩
  · rw [huse]
    exact ⟨hblock, fun _ => hloaded⟩

/-- A use that asks for something leaves the core sound, and the server as it was. -/
theorem sound_answer {α : Type} (h : core.Sound) (answer : ServerState → Except Throwable α)
    (fallback : Throwable → α) :
    (withNativeServer paths w core (fun server => (answer server, server)) fallback).2.Sound :=
  sound_withNativeServer h fallback h.address

theorem sound_shortStatus (h : core.Sound) : (TlsPlusCore.shortStatus paths w core).2.Sound :=
  sound_answer h _ _

theorem sound_describeCore (h : core.Sound) : (TlsPlusCore.describeCore paths w core).2.Sound :=
  sound_answer h _ _

theorem sound_profileInfo (h : core.Sound) (name : Str) :
    (TlsPlusCore.profileInfo paths w core name).2.Sound :=
  sound_answer h _ _

theorem sound_serverStatus (h : core.Sound) : (TlsPlusCore.serverStatus paths w core).2.Sound :=
  sound_answer h _ _

theorem sound_sendProxyRequest (h : core.Sound) (method url : Str) (headers : List Str)
    (body : List UInt8) (profile : Str) (timeoutSecs : Nat) :
    (TlsPlusCore.sendProxyRequest paths w core method url headers body profile
      timeoutSecs).2.Sound :=
  sound_answer h _ _

theorem address_startLocalServer {world : StartWorld} {server : ServerState}
    (h : server.running = true → server.listenAddr.isSome = true) (listenAddr : Str) :
    (startLocalServer world server listenAddr).2.running = true →
      (startLocalServer world server listenAddr).2.listenAddr.isSome = true := by
  cases hrunning : server.running with
  | true =>
      rw [startLocalServer_running world listenAddr hrunning]
      exact h
  | false =>
      rcases startLocalServer_cases world listenAddr hrunning with
        ⟨-, message, hstart⟩ | ⟨bound, message, -, hstart⟩
      · rw [hstart]
        exact h
      · rw [hstart]
        exact fun _ => rfl

theorem sound_startServer (h : core.Sound) (listenAddr : Str) :
    (TlsPlusCore.startServer paths w core listenAddr).2.Sound :=
  sound_withNativeServer h _ (address_startLocalServer h.address listenAddr)

theorem sound_stopServer (h : core.Sound) : (TlsPlusCore.stopServer paths w core).2.Sound := by
  refine sound_withNativeServer h _ ?_
  show (stopLocalServer w.completed core.server).2.running = true → _
  rw [stopLocalServer_snd]
  exact fun hrunning => absurd hrunning Bool.false_ne_true

/-- **A status that cannot be told is that of a stopped server.** -/
theorem serverStatus_tells (paths : LoaderPaths) (w : CallWorld) (h : core.Sound) :
    reportsRunning (TlsPlusCore.serverStatus paths w core).1 = core.server.running ∧
      (core.server.running = true →
        (TlsPlusCore.serverStatus paths w core).1.bind ServerStatus.listenAddr
          = core.server.listenAddr) := by
  unfold TlsPlusCore.serverStatus
  rcases withNativeServer_cases paths w h
    (fun server => (.ok (some (serverStatus (some server))), server)) (fun _ => none) with
    ⟨e, loader, hstopped, huse⟩ | ⟨loader, -, ⟨e, hblock, -⟩ | ⟨value, hblock, huse⟩⟩
  · rw [huse, hstopped]
    exact ⟨rfl, fun hrunning => absurd hrunning Bool.false_ne_true⟩
  · exact absurd hblock (by simp)
  · rw [huse, ← Except.ok.inj hblock]
    exact ⟨rfl, fun _ => rfl⟩

/-- A fingerprint leaves the server alone and the library loaded. -/
theorem loaded_withNative {α : Type} (paths : LoaderPaths) (lw : LoadWorld) {loader : NativeLoader}
    (block : Block α) (fallback : Throwable → α) (h : loader.loaded = true) :
    (withNative paths lw loader block fallback).loader.loaded = true := by
  unfold withNative
  rw [(loaded_ensureLoaded paths lw loader).1 h]
  simp only
  split <;> exact h

end TlsPlus
