/-
Loading and unloading the Burp extension (`TlsPlusExtension.kt`).

On loading, a thread sleeps, then starts the server on the configured address and,
if that fails, on five fallback ports in turn; it persists the address that works.
On unloading, a handler stops the server.  Each call of the native core is atomic
under the core's lock, but the thread's calls are several, and the handler may run
between any two of them.
-/
import TlsPlus.Extension.Settings
import TlsPlus.Proxy.Server

namespace TlsPlus

open Text

/-- `TlsPlusCore.startServer`.  There is no world, and no status, if the native library cannot
be loaded. -/
def coreStartServer (w : Option StartWorld) (server : ServerState) (listenAddr : Str) :
    Option ServerStatus × ServerState :=
  match w with
  | some w => (some (startLocalServer w server listenAddr).1,
      (startLocalServer w server listenAddr).2)
  | none => (none, server)

/-- `result.status?.running == true` -/
def reportsRunning (status : Option ServerStatus) : Bool :=
  (status.map ServerStatus.running).getD false

/-- `result.status.listenAddr?.let { settings.serverListenAddr = it }`, of a running server. -/
def persistLiveAddress (p : Preferences) (status : Option ServerStatus) : Preferences :=
  if reportsRunning status then
    match status.bind ServerStatus.listenAddr with
    | some liveAddress => p.setServerListenAddr liveAddress
    | none => p
  else p

/-- Where the auto-start thread stands.  A port is one of the fallback ports. -/
inductive AutoStartPc where
  | sleeping
  | starting (listenAddr : Str)
  | started (status : Option ServerStatus)
  | retrying (port : Nat)
  | retried (port : Nat) (status : Option ServerStatus)
  | refreshing
  | ended
deriving DecidableEq, Repr

def firstFallbackPort : Nat := 43118
def lastFallbackPort : Nat := 43122

def fallbackAddress (port : Nat) : Str := "127.0.0.1:" ++ decimal port

/-- What the auto-start thread reads and writes. -/
structure ExtensionState where
  preferences : Preferences
  server : ServerState
  autoStart : AutoStartPc

/-- The thread's next step.  `w` is what a start meets, if the step is one. -/
def ExtensionState.autoStartStep (s : ExtensionState) (w : Option StartWorld) :
    Option ExtensionState :=
  match s.autoStart with
  | .sleeping => some { s with autoStart := .starting s.preferences.serverListenAddr }
  | .starting addr =>
    let result := coreStartServer w s.server addr
    some { s with server := result.2, autoStart := .started result.1 }
  | .started status =>
    if reportsRunning status then
      some { s with
        preferences := persistLiveAddress s.preferences status
        autoStart := .refreshing }
    else some { s with autoStart := .retrying firstFallbackPort }
  | .retrying port =>
    let result := coreStartServer w s.server (fallbackAddress port)
    some { s with server := result.2, autoStart := .retried port result.1 }
  | .retried port status =>
    if reportsRunning status then
      let liveAddress := (status.bind ServerStatus.listenAddr).getD (fallbackAddress port)
      some { s with
        preferences := s.preferences.setServerListenAddr liveAddress
        autoStart := .refreshing }
    else if port < lastFallbackPort then some { s with autoStart := .retrying (port + 1) }
    else some { s with autoStart := .refreshing }
  | .refreshing => some { s with autoStart := .ended }
  | .ended => none

/-! ### Loading and unloading -/

structure LoadedExtension where
  state : ExtensionState
  unloaded : Bool

inductive ExtensionEvent where
  | autoStart (w : Option StartWorld)
  /-- the unloading handler; `completed` is whether the server task's completion arrives in
  time -/
  | unload (completed : Bool)

def LoadedExtension.init (preferences : Preferences) : LoadedExtension :=
  ⟨⟨preferences, .init, .sleeping⟩, false⟩

def extensionMachine : Machine LoadedExtension ExtensionEvent where
  step s event :=
    match event with
    | .autoStart w => (s.state.autoStartStep w).map fun state => { s with state := state }
    | .unload completed =>
      if s.unloaded then none
      else
        let server := (stopLocalServer completed s.state.server).2
        some ⟨{ s.state with server := server }, true⟩

end TlsPlus
