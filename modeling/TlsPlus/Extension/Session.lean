/-
A session of the extension, from its loading on (`TlsPlusExtension.kt`).

The tab and the panel are there before the thread wakes that starts the server, so
between any two of its steps the server may be started and stopped by the user and
the settings written.  The native core is loaded anew in each session, and its server
is stopped then; the settings are what one session leaves to the next.
-/
import TlsPlus.Extension.AutoStart

namespace TlsPlus

inductive SessionEvent where
  /-- the thread's next step -/
  | autoStart (w : Option StartWorld)
  /-- a start from the tab -/
  | startServer (w : Option StartWorld) (listenAddr : Str)
  /-- a stop from the tab, or by the unloading handler -/
  | stopServer (completed : Bool)
  /-- settings are written from the tab or the panel -/
  | change (preferences : Preferences)

def sessionMachine : Machine ExtensionState SessionEvent where
  step s event :=
    match event with
    | .autoStart w => s.autoStartStep w
    | .startServer w listenAddr =>
      some { s with server := (coreStartServer w s.server listenAddr).2 }
    | .stopServer completed => some { s with server := (stopLocalServer completed s.server).2 }
    | .change preferences => some { s with preferences := preferences }

/-- The extension as it is loaded. -/
def ExtensionState.load (preferences : Preferences) : ExtensionState :=
  ⟨preferences, .init, .sleeping⟩

/-! ### What the thread does -/

/-- What can be seen of the thread: the setting it reads, what it asks the core for and is told,
and what it stores. -/
inductive AutoStartAct where
  | reads (listenAddr : Str)
  | asks (listenAddr : Str) (status : Option ServerStatus)
  | stores (listenAddr : Str)
deriving DecidableEq, Repr

def autoStartAct (s : ExtensionState) : SessionEvent → Option AutoStartAct
  | .autoStart w =>
    match s.autoStart with
    | .sleeping => some (.reads s.preferences.serverListenAddr)
    | .starting listenAddr => some (.asks listenAddr (coreStartServer w s.server listenAddr).1)
    | .started status =>
      if reportsRunning status then (status.bind ServerStatus.listenAddr).map .stores else none
    | .retrying port =>
      some (.asks (fallbackAddress port) (coreStartServer w s.server (fallbackAddress port)).1)
    | .retried port status =>
      if reportsRunning status then
        some (.stores ((status.bind ServerStatus.listenAddr).getD (fallbackAddress port)))
      else none
    | .refreshing | .ended => none
  | _ => none

/-- The addresses that the thread asks for, in order, until one is granted. -/
def startCandidates (configured : Str) : List Str :=
  configured :: (List.range (lastFallbackPort + 1 - firstFallbackPort)).map
    fun i => fallbackAddress (firstFallbackPort + i)

/-! ### One session after the other -/

/-- The settings that a session leaves. -/
def sessionsMachine : Machine Preferences (List SessionEvent) where
  step preferences session :=
    (sessionMachine.run (.load preferences) session).map ExtensionState.preferences

end TlsPlus
