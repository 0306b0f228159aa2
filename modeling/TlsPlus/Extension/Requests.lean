/-
The extension at work (`TlsPlusExtension.kt`, `core/TlsPlusCore.kt`).

Every request that Burp is about to send goes through the handler, which asks the
core where its server listens.  Between any two requests the settings may change and
the server may be started or stopped, by the user or by the thread that starts it on
loading.  Whatever needs the native library first has it loaded, or does without.
-/
import TlsPlus.Extension.AutoStart
import TlsPlus.Extension.HttpHandler
import TlsPlus.Extension.NativeLoader

namespace TlsPlus

structure RunningExtension where
  preferences : Preferences
  loader : NativeLoader
  server : ServerState

/-- `TlsPlusCore.serverStatus`, and the loader it leaves. -/
def coreServerStatus (paths : LoaderPaths) (lw : LoadWorld) (loader : NativeLoader)
    (server : ServerState) : Option ServerStatus × NativeLoader :=
  let ensured := ensureLoaded paths lw loader
  match ensured.result with
  | .ok () => (some (serverStatus (some server)), ensured.loader)
  | .error _ => (none, ensured.loader)

/-- `core.serverStatus()?.takeIf { it.running }?.listenAddr` -/
def proxyEndpoint (status : Option ServerStatus) : Option Str :=
  (status.filter ServerStatus.running).bind ServerStatus.listenAddr

inductive UseEvent (Message : Type) where
  /-- Burp is about to send the message -/
  | request (lw : LoadWorld) (m : Message)
  | startServer (lw : LoadWorld) (w : StartWorld) (listenAddr : Str)
  | stopServer (lw : LoadWorld) (completed : Bool)
  /-- a setting is written -/
  | change (preferences : Preferences)

variable {Message : Type}

namespace RunningExtension

def init (preferences : Preferences) (jnaLibraryPath : Option Str) : RunningExtension :=
  ⟨preferences, ⟨false, jnaLibraryPath⟩, .init⟩

/-- The message that is sent in place of this one, and the extension after. -/
def onRequest (k : Kotlin) (mo : Montoya Message) (paths : LoaderPaths) (lw : LoadWorld)
    (s : RunningExtension) (m : Message) : Message × RunningExtension :=
  -- the core is not asked in pass-through mode
  if s.preferences.passThroughOnly then (m, s)
  else
    let (status, loader) := coreServerStatus paths lw s.loader s.server
    (handleHttpRequestToBeSent k mo s.preferences (proxyEndpoint status) m,
      { s with loader := loader })

def startServer (paths : LoaderPaths) (lw : LoadWorld) (w : StartWorld) (listenAddr : Str)
    (s : RunningExtension) : RunningExtension :=
  let ensured := ensureLoaded paths lw s.loader
  match ensured.result with
  | .ok () =>
    { s with
      loader := ensured.loader
      server := (coreStartServer (some w) s.server listenAddr).2 }
  | .error _ =>
    { s with loader := ensured.loader, server := (coreStartServer none s.server listenAddr).2 }

def stopServer (paths : LoaderPaths) (lw : LoadWorld) (completed : Bool) (s : RunningExtension) :
    RunningExtension :=
  let ensured := ensureLoaded paths lw s.loader
  match ensured.result with
  | .ok () =>
    { s with loader := ensured.loader, server := (stopLocalServer completed s.server).2 }
  | .error _ => { s with loader := ensured.loader }

end RunningExtension

def useMachine (k : Kotlin) (mo : Montoya Message) (paths : LoaderPaths) :
    Machine RunningExtension (UseEvent Message) where
  step s event := some <|
    match event with
    | .request lw m => (s.onRequest k mo paths lw m).2
    | .startServer lw w listenAddr => s.startServer paths lw w listenAddr
    | .stopServer lw completed => s.stopServer paths lw completed
    | .change preferences => { s with preferences := preferences }

end TlsPlus
