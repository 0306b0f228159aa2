/-
The suite tab at work (`ui/TlsPlusTab.kt`).

What a button does is done by a thread of its own, which calls the core and ends by
queuing an update of the tab.  On the event dispatch thread the clicks of the user, the
ticks of the timer and the queued updates come one after the other.  The header is
brought up to date in the same way: a thread asks the core for its status and queues an
update.  Such a thread is started at every tick and after everything on the tab that may
have changed the server.

Any number of threads may be on their way at once, each moving between any two steps of
the others, or not at all.  What a text field or a combo box holds comes with the click.
-/
import TlsPlus.Extension.CoreCalls
import TlsPlus.Extension.SettingsUi
import TlsPlus.Lib.Dispatch

namespace TlsPlus

open Text

/-! ### What is on the tab -/

/-- The colours of the two dots. -/
inductive Dot where
  | grey
  | red
  | green
  | blue
deriving DecidableEq, Repr

structure StatusBar where
  proxyDot : Dot
  proxyStatus : Str
  coreDot : Dot
  coreStatus : Str
deriving DecidableEq, Repr

/-- Which of the buttons are enabled. -/
structure Buttons where
  start : Bool
  stop : Bool
  computeJa4 : Bool
  computeJa3 : Bool
  sendRequest : Bool
deriving DecidableEq, Repr

/-- The box of the outbound test: empty, on its way, or with the response laid out in it. -/
inductive TestResult where
  | blank
  | sending (url : Str)
  | answered (response : ProxyResponse)
deriving DecidableEq

/-! ### Threads and updates -/

inductive Update where
  /-- `applyCoreStatus` and `applyProxyStatus` -/
  | status (coreOk : Bool) (coreStatus : Str) (running : Bool) (listenAddr : Str)
  /-- `setOutput` and `refreshStatus` -/
  | outputAndRefresh (message : Str)
  | output (message : Str)
  /-- `setOutput` and `toggleJa4Buttons(true)` -/
  | fingerprint (message : Str)
  | response (response : ProxyResponse)
deriving DecidableEq

/-- What is left of a background thread: the call it makes next, with what it knows by then. -/
inductive Worker where
  /-- at `core.shortStatus()` -/
  | refreshing
  /-- at `core.serverStatus()` -/
  | refreshingServer (coreStatus : Str)
  | refreshed (coreStatus : Str) (status : Option ServerStatus)
  | starting (addr : Str)
  | started (result : ServerStartResult)
  | stopping
  | describing
  | loadingProfile (name : Str)
  | computingJa4 (hex : Str)
  | computingJa3 (hex : Str)
  | requesting (method url profile : Str)
  /-- at `invokeLater` -/
  | posting (update : Update)
deriving DecidableEq

/-- What threads read and write beside the tab's widgets. -/
structure Shared where
  preferences : Preferences
  core : CoreState
  serverRunning : Bool

/-- The text of `showProfileDetails`. -/
def profileDetails (name : Str) : Option TlsProfileInfo → Str
  | none => "No profile details available for '" ++ name ++ "'."
  | some info =>
    let joined := List.intercalate (", " : Str) info.alpnProtocols
    let alpnProtocols : Str := if joined.all kotlinIsWhitespace then "(none)" else joined
    buildLines ["Profile: " ++ info.name, "Description: " ++ info.description,
      "Cipher count: " ++ decimal info.cipherCount, "ALPN protocols: " ++ alpnProtocols]

/-- The thread's next step, if it is not there to queue its update. -/
def Worker.advance (paths : LoaderPaths) (w : CallWorld) (s : Shared) : Worker → Worker × Shared
  | .refreshing =>
    let (coreStatus, core) := TlsPlusCore.shortStatus paths w s.core
    (.refreshingServer coreStatus, { s with core := core })
  | .refreshingServer coreStatus =>
    let (status, core) := TlsPlusCore.serverStatus paths w s.core
    (.refreshed coreStatus status, { s with core := core })
  | .refreshed coreStatus status =>
    let coreOk := !("native unavailable" : Str).isPrefixOf coreStatus
    let running := reportsRunning status
    let listenAddr := (status.bind ServerStatus.listenAddr).getD s.preferences.serverListenAddr
    (.posting (.status coreOk coreStatus running listenAddr), { s with serverRunning := running })
  | .starting addr =>
    let (result, core) := TlsPlusCore.startServer paths w s.core addr
    (.started result, { s with core := core })
  | .started result =>
    (.posting (.outputAndRefresh result.output),
      { s with preferences := persistLiveAddress s.preferences result.status })
  | .stopping =>
    let (result, core) := TlsPlusCore.stopServer paths w s.core
    (.posting (.outputAndRefresh result), { s with core := core })
  | .describing =>
    let (info, core) := TlsPlusCore.describeCore paths w s.core
    (.posting (.outputAndRefresh info), { s with core := core })
  | .loadingProfile name =>
    let (info, core) := TlsPlusCore.profileInfo paths w s.core name
    (.posting (.output (profileDetails name info)), { s with core := core })
  | .computingJa4 hex =>
    let (result, core) := leavingServer s.core
      (computeClientHelloHex w.native.toNativeCore paths w.load s.core.loader hex)
    (.posting (.fingerprint result), { s with core := core })
  | .computingJa3 hex =>
    let (result, core) := leavingServer s.core
      (computeJa3ClientHello w.native.toNativeCore paths w.load s.core.loader hex)
    (.posting (.fingerprint result), { s with core := core })
  | .requesting method url profile =>
    let (response, core) := TlsPlusCore.sendProxyRequest paths w s.core method url [] [] profile 30
    (.posting (.response response), { s with core := core })
  | .posting update => (.posting update, s)

/-! ### The tab -/

structure Tab where
  shared : Shared
  dispatch : Dispatch Worker Update
  statusBar : StatusBar
  buttons : Buttons
  /-- the timer runs -/
  polling : Bool
  output : Str
  proxyTestResult : TestResult

namespace Tab

variable (s : Tab)

def runBackground (block : Worker) : Tab := { s with dispatch := s.dispatch.spawn block }

def refreshStatus : Tab := s.runBackground .refreshing

def setOutput (message : Str) : Tab := { s with output := message }

def toggleJa4Buttons (enabled : Bool) : Tab :=
  { s with buttons := { s.buttons with computeJa4 := enabled, computeJa3 := enabled } }

/-- The tab as it is constructed; `output` is what the core said of itself. -/
def init (p : Preferences) (loader : NativeLoader) (output : Str) : Tab :=
  refreshStatus
    { shared := ⟨p, ⟨loader, .init⟩, false⟩
      dispatch := .empty
      statusBar := ⟨.grey, "checking…", .grey, "checking…"⟩
      buttons := ⟨true, true, true, true, true⟩
      polling := false
      output := output
      proxyTestResult := .blank }

def applyCoreStatus (ok : Bool) (status : Str) : Tab :=
  if ok then { s with statusBar := { s.statusBar with coreDot := .blue, coreStatus := status } }
  else { s with statusBar := { s.statusBar with coreDot := .red, coreStatus := "unavailable" } }

def applyProxyStatus (running : Bool) (listenAddr : Str) : Tab :=
  if running then
    { s with
      statusBar := { s.statusBar with
        proxyDot := .green
        proxyStatus := "RUNNING on " ++ listenAddr }
      buttons := { s.buttons with start := false, stop := true } }
  else
    { s with
      statusBar := { s.statusBar with proxyDot := .red, proxyStatus := "STOPPED" }
      buttons := { s.buttons with start := true, stop := false } }

/-- A queued update runs. -/
def applyUpdate : Update → Tab
  | .status coreOk coreStatus running listenAddr =>
    (s.applyCoreStatus coreOk coreStatus).applyProxyStatus running listenAddr
  | .outputAndRefresh message => (s.setOutput message).refreshStatus
  | .output message => s.setOutput message
  | .fingerprint message => (s.setOutput message).toggleJa4Buttons true
  | .response response =>
    { s with
      proxyTestResult := .answered response
      buttons := { s.buttons with sendRequest := true } }

/-! ### Clicks -/

def onRefreshCore : Tab := (s.setOutput "Refreshing core…").runBackground .describing

def onStartServer (text : Str) : Tab :=
  let addr := enteredListenAddr text
  runBackground
    { s with
      shared := { s.shared with preferences := s.shared.preferences.setServerListenAddr addr }
      buttons := { s.buttons with start := false, stop := false }
      output := "Starting proxy on " ++ addr ++ " …" }
    (.starting addr)

def onStopServer : Tab :=
  runBackground
    { s with
      buttons := { s.buttons with start := false, stop := false }
      output := "Stopping proxy …" }
    .stopping

def showProfileDetails (selectedItem : Option Str) : Tab :=
  match selectedItem with
  | none => s
  | some name =>
    (s.setOutput ("Loading profile '" ++ name ++ "' …")).runBackground (.loadingProfile name)

def onComputeJa4 (hex : Str) : Tab :=
  ((s.toggleJa4Buttons false).setOutput "Computing JA4 …").runBackground (.computingJa4 hex)

def onComputeJa3 (hex : Str) : Tab :=
  ((s.toggleJa4Buttons false).setOutput "Computing JA3 …").runBackground (.computingJa3 hex)

/-- The *Clear* button below the ClientHello; the core is asked on the event dispatch thread. -/
def onClear (paths : LoaderPaths) (w : CallWorld) : Tab :=
  let (info, core) := TlsPlusCore.describeCore paths w s.shared.core
  { s with shared := { s.shared with core := core }, output := info }

def onSendProxyRequest (method : Option Str) (text : Str) (profile : Option Str) : Tab :=
  let url := (text.dropWhile kotlinIsWhitespace).rdropWhile kotlinIsWhitespace
  runBackground
    { s with
      buttons := { s.buttons with sendRequest := false }
      proxyTestResult := .sending url }
    (.requesting (method.getD "GET") url (profile.getD "pass-through"))

end Tab

/-! ### Steps -/

/-- Other uses of the core, by the auto-start thread, the handlers and Burp's unloading. -/
inductive CoreUse where
  | start (listenAddr : Str)
  | stop
  | query

def CoreUse.run (paths : LoaderPaths) (w : CallWorld) (core : CoreState) : CoreUse → CoreState
  | .start listenAddr => (TlsPlusCore.startServer paths w core listenAddr).2
  | .stop => (TlsPlusCore.stopServer paths w core).2
  | .query => (TlsPlusCore.serverStatus paths w core).2

inductive TabEvent where
  /-- a background thread moves: the call that it is at returns, if it does -/
  | worker (thread : Nat) (w : CallWorld)
  /-- the next queued update runs -/
  | update
  /-- the tab is shown or hidden -/
  | addNotify
  | removeNotify
  /-- the timer ticks -/
  | tick
  /-- the extension calls `refreshStatus` -/
  | refreshStatus
  | refreshCore
  | startServer (text : Str)
  | stopServer
  | showProfileDetails (selectedItem : Option Str)
  | computeJa4 (hex : Str)
  | computeJa3 (hex : Str)
  | clear (w : CallWorld)
  | sendProxyRequest (method : Option Str) (text : Str) (profile : Option Str)
  | clearResult
  /-- the core is used elsewhere -/
  | elsewhere (w : CallWorld) (use : CoreUse)
  /-- settings are written elsewhere, or by *Save Settings* -/
  | settings (p : Preferences)

namespace Tab

variable (s : Tab) (paths : LoaderPaths)

def workerStep (thread : Nat) (w : CallWorld) : Option Tab :=
  match s.dispatch.worker? thread with
  | none => none
  | some (.posting update) => some { s with dispatch := s.dispatch.post thread update }
  | some worker =>
    let (worker, shared) := worker.advance paths w s.shared
    some { s with shared := shared, dispatch := s.dispatch.advance thread worker }

def step : TabEvent → Option Tab
  | .worker thread w => s.workerStep paths thread w
  | .update => s.dispatch.take.map fun (update, dispatch) =>
      applyUpdate { s with dispatch := dispatch } update
  | .addNotify => some { s.refreshStatus with polling := true }
  | .removeNotify => some { s with polling := false }
  | .tick => if s.polling then some s.refreshStatus else none
  | .refreshStatus => some s.refreshStatus
  | .refreshCore => some s.onRefreshCore
  | .startServer text => if s.buttons.start then some (s.onStartServer text) else none
  | .stopServer => if s.buttons.stop then some s.onStopServer else none
  | .showProfileDetails selectedItem => some (s.showProfileDetails selectedItem)
  | .computeJa4 hex => if s.buttons.computeJa4 then some (s.onComputeJa4 hex) else none
  | .computeJa3 hex => if s.buttons.computeJa3 then some (s.onComputeJa3 hex) else none
  | .clear w => some (s.onClear paths w)
  | .sendProxyRequest method text profile =>
    if s.buttons.sendRequest then some (s.onSendProxyRequest method text profile) else none
  | .clearResult => some { s with proxyTestResult := .blank }
  | .elsewhere w use =>
    some { s with shared := { s.shared with core := use.run paths w s.shared.core } }
  | .settings p => some { s with shared := { s.shared with preferences := p } }

end Tab

def tabMachine (paths : LoaderPaths) : Machine Tab TabEvent where
  step s event := s.step paths event

end TlsPlus
