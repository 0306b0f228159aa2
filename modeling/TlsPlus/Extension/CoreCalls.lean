/-
The other uses of the native core (`core/TlsPlusCore.kt`).

They go through `withNative` like the fingerprints do, and most of them put what they
get into words.  Some read or change the server's state, which is the core's and so
outlives the call; `CoreState` is what calls leave behind, the loader included.
-/
import TlsPlus.Extension.Core
import TlsPlus.Extension.Requests
import TlsPlus.ProfileInfo
import TlsPlus.Proxy.Server.Send

namespace TlsPlus

open Text

structure EngineInfo where
  name : Str
  version : Str
  foxioReference : Str
  ja4Core : Str
  capabilities : List Str
  limitations : List Str

structure ServerStartResult where
  status : Option ServerStatus
  output : Str
deriving DecidableEq, Repr

/-- What the calls of the core answer, those about the server aside. -/
structure NativeLibrary extends NativeCore where
  tlsplusVersion : Except Throwable Str
  engineInfo : Except Throwable EngineInfo
  availableProfiles : Except Throwable (List Str)
  getTlsProfile : Str → Except Throwable (Option TlsProfileInfo)
  proxySendRequest : ProxyRequest → Except Throwable ProxyResponse

/-- What a use of the core meets.  `start` is what a start of the server meets, and `completed` is
whether a stop is completed in time. -/
structure CallWorld where
  load : LoadWorld
  native : NativeLibrary
  start : StartWorld
  completed : Bool
  randomUuid : Str
  stackTraceToString : Throwable → Str

structure CoreState where
  loader : NativeLoader
  server : ServerState
deriving DecidableEq, Repr

variable {α : Type} (paths : LoaderPaths) (w : CallWorld) (core : CoreState)

/-- `withNative` around a block that may change the server's state. -/
def withNativeServer (block : ServerState → Except Throwable α × ServerState)
    (fallback : Throwable → α) : α × CoreState :=
  let ensured := ensureLoaded paths w.load core.loader
  match ensured.result with
  | .error e => (fallback e, ⟨ensured.loader, core.server⟩)
  | .ok () =>
    match block core.server with
    | (.error e, server) => (fallback e, ⟨ensured.loader, server⟩)
    | (.ok value, server) => (value, ⟨ensured.loader, server⟩)

namespace TlsPlusCore

/-! ### What the core is -/

def shortStatus : Str × CoreState :=
  withNativeServer paths w core
    (fun server => (w.native.tlsplusVersion.map fun version => "native v" ++ version, server))
    (fun e => "native unavailable: " ++ e.text)

def bulletLines (items : List Str) : Str := buildLines (items.map (("  - " : Str) ++ ·))

def describeEngine (info : EngineInfo) : Str :=
  buildLines [info.name ++ " v" ++ info.version, "JA4 engine: " ++ info.ja4Core,
    "Reference: " ++ info.foxioReference, [], "Capabilities:"] ++
  bulletLines info.capabilities ++ buildLines [[], "Limitations:"] ++ bulletLines info.limitations

def describeCore : Str × CoreState :=
  withNativeServer paths w core
    (fun server => (w.native.engineInfo.map describeEngine, server))
    (fun e => "Native core unavailable: " ++ w.stackTraceToString e)

def profiles : List Str × CoreState :=
  withNativeServer paths w core (fun server => (w.native.availableProfiles, server))
    (fun _ => ["pass-through"])

def profileInfo (name : Str) : Option TlsProfileInfo × CoreState :=
  withNativeServer paths w core (fun server => (w.native.getTlsProfile name, server))
    (fun _ => none)

/-! ### The server -/

def serverWord (running : Bool) : Str := if running then "RUNNING" else "STOPPED"

def formatServerStatus (status : ServerStatus) : Str :=
  buildLines ["Server: " ++ serverWord status.running, "Listen: " ++ status.listenAddr.getD "n/a",
    status.message]

def startServer (listenAddr : Str) : ServerStartResult × CoreState :=
  withNativeServer paths w core
    (fun server =>
      let (status, server) := startLocalServer w.start server listenAddr
      (.ok ⟨some status, formatServerStatus status⟩, server))
    (fun e => ⟨none, "failed to start server: " ++ e.text⟩)

def stopServer : Str × CoreState :=
  withNativeServer paths w core
    (fun server =>
      let (status, server) := stopLocalServer w.completed server
      (.ok (buildLines ["Server: " ++ serverWord status.running,
        "Previous: " ++ status.listenAddr.getD "n/a", status.message]), server))
    (fun e => "failed to stop server: " ++ e.text)

def serverStatus : Option ServerStatus × CoreState :=
  withNativeServer paths w core
    (fun server => (.ok (some (TlsPlus.serverStatus (some server))), server)) (fun _ => none)

/-! ### Requests -/

def sendProxyRequest (method url : Str) (headers : List Str) (body : List UInt8) (profile : Str)
    (timeoutSecs : Nat) : ProxyResponse × CoreState :=
  let request : ProxyRequest := ⟨w.randomUuid, method, url, headers, body, profile, timeoutSecs⟩
  withNativeServer paths w core (fun server => (w.native.proxySendRequest request, server))
    (fun e => ⟨[], 0, [], [], none, some ("proxySendRequest failed: " ++ e.text)⟩)

end TlsPlusCore

/-! ### Fingerprints -/

/-- A use that has nothing to do with the server. -/
def leavingServer (computed : Computed α) : α × CoreState :=
  (computed.value, ⟨computed.loader, core.server⟩)

end TlsPlus
