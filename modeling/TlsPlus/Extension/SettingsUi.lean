/-
The two places where a user edits the settings (`ui/TlsPlusTab.kt`,
`ui/TlsPlusSettingsPanel.kt`).

The suite tab and the panel in Burp's settings dialog each have a widget for each
of the four settings, filled when the extension is loaded and by the user's own
actions from then on, never from the store.  Most actions write the setting they
are about; *Save Settings* writes all four from the tab's widgets, *Start* and
leaving the panel's address field write the address from a field.

Actions of the user run one at a time, on the event dispatch thread.  The
auto-start thread and the threads that *Start* spawns run beside them.
-/
import TlsPlus.Extension.AutoStart
import TlsPlus.Extension.Kotlin

namespace TlsPlus

open Text

/-! ### Text fields -/

/-- `trim().ifBlank { "127.0.0.1:43117" }` -/
def enteredListenAddr (text : Str) : Str :=
  let value := (text.dropWhile kotlinIsWhitespace).rdropWhile kotlinIsWhitespace
  if value.all kotlinIsWhitespace then defaultListenAddr else value

/-! ### Widgets -/

/-- The widgets of one of the two places: two check boxes, a combo box and a text field. -/
structure Widgets where
  passThroughOnly : Bool
  preserveHeaderOrder : Bool
  selectedProfile : Option Str
  listenAddr : Str
deriving DecidableEq, Repr

/-- `selectedItem = name` on a combo box that is not editable: a name that is not among the
items leaves the first one selected. -/
def selectInitial (items : List Str) (name : Str) : Option Str :=
  if name ∈ items then some name else items.head?

def Widgets.ofSettings (items : List Str) (p : Preferences) : Widgets where
  passThroughOnly := p.passThroughOnly
  preserveHeaderOrder := p.preserveHeaderOrder
  selectedProfile := selectInitial items p.profileName
  listenAddr := p.serverListenAddr

/-- A background thread of *Start*: on its way to the core, back from it, or done. -/
inductive StartThread where
  | calling (listenAddr : Str)
  | returned (status : Option ServerStatus)
  | ended
deriving DecidableEq, Repr

structure SettingsUi where
  extension : ExtensionState
  tab : Widgets
  panel : Widgets
  starts : List StartThread

def SettingsUi.init (items : List Str) (p : Preferences) : SettingsUi :=
  ⟨⟨p, .init, .sleeping⟩, .ofSettings items p, .ofSettings items p, []⟩

namespace SettingsUi

variable (s : SettingsUi)

def preferences : Preferences := s.extension.preferences

def setPreferences (p : Preferences) : SettingsUi :=
  { s with extension := { s.extension with preferences := p } }

/-! ### The tab -/

/-- The user clicks the box and its listener runs. -/
def tabPassThroughOnly : SettingsUi :=
  let selected := !s.tab.passThroughOnly
  { s.setPreferences (s.preferences.setPassThroughOnly selected) with
    tab := { s.tab with passThroughOnly := selected } }

def tabPreserveHeaderOrder : SettingsUi :=
  let selected := !s.tab.preserveHeaderOrder
  { s.setPreferences (s.preferences.setPreserveHeaderOrder selected) with
    tab := { s.tab with preserveHeaderOrder := selected } }

def tabProfile (item : Str) : SettingsUi :=
  let selectedItem := some item
  { s.setPreferences (s.preferences.setProfileName (selectedItem.getD "pass-through")) with
    tab := { s.tab with selectedProfile := selectedItem } }

def tabType (text : Str) : SettingsUi := { s with tab := { s.tab with listenAddr := text } }

def onSaveSettings : SettingsUi :=
  let saved := (((s.preferences.setServerListenAddr (enteredListenAddr s.tab.listenAddr)
    ).setProfileName (s.tab.selectedProfile.getD "pass-through")
    ).setPassThroughOnly s.tab.passThroughOnly
    ).setPreserveHeaderOrder s.tab.preserveHeaderOrder
  { s.setPreferences saved with tab := { s.tab with listenAddr := saved.serverListenAddr } }

def onStartServer : SettingsUi :=
  let addr := enteredListenAddr s.tab.listenAddr
  { s.setPreferences (s.preferences.setServerListenAddr addr) with
    starts := s.starts ++ [.calling addr] }

/-- The next step of a background thread of *Start*. -/
def startStep (thread : Nat) (w : Option StartWorld) : Option SettingsUi :=
  match s.starts[thread]? with
  | some (.calling addr) =>
    let result := coreStartServer w s.extension.server addr
    some { s with
      extension := { s.extension with server := result.2 }
      starts := s.starts.set thread (.returned result.1) }
  | some (.returned status) =>
    some { s.setPreferences (persistLiveAddress s.preferences status) with
      starts := s.starts.set thread .ended }
  | _ => none

def onStopServer (completed : Bool) : SettingsUi :=
  { s with extension :=
    { s.extension with server := (stopLocalServer completed s.extension.server).2 } }

/-! ### The panel -/

def panelPassThroughOnly : SettingsUi :=
  let selected := !s.panel.passThroughOnly
  { s.setPreferences (s.preferences.setPassThroughOnly selected) with
    panel := { s.panel with passThroughOnly := selected } }

def panelPreserveHeaderOrder : SettingsUi :=
  let selected := !s.panel.preserveHeaderOrder
  { s.setPreferences (s.preferences.setPreserveHeaderOrder selected) with
    panel := { s.panel with preserveHeaderOrder := selected } }

def panelProfile (item : Str) : SettingsUi :=
  let selectedItem := some item
  { s.setPreferences
      (s.preferences.setProfileName (selectedItem.getD s.preferences.profileName)) with
    panel := { s.panel with selectedProfile := selectedItem } }

def panelType (text : Str) : SettingsUi := { s with panel := { s.panel with listenAddr := text } }

/-- The field's listener on Enter and on losing the focus. -/
def commitListenAddr : SettingsUi :=
  let value := enteredListenAddr s.panel.listenAddr
  { s.setPreferences (s.preferences.setServerListenAddr value) with
    panel := { s.panel with listenAddr := value } }

end SettingsUi

/-! ### Steps -/

inductive UiEvent where
  | tabPassThroughOnly
  | tabPreserveHeaderOrder
  | tabProfile (item : Str)
  | tabType (text : Str)
  | saveSettings
  | startServer
  | stopServer (completed : Bool)
  | panelPassThroughOnly
  | panelPreserveHeaderOrder
  | panelProfile (item : Str)
  | panelType (text : Str)
  | commitListenAddr
  | startThread (thread : Nat) (w : Option StartWorld)
  | autoStart (w : Option StartWorld)

/-- The user and the threads; `items` are the profiles in the combo boxes. -/
def settingsUiMachine (items : List Str) : Machine SettingsUi UiEvent where
  step s event :=
    match event with
    | .tabPassThroughOnly => some s.tabPassThroughOnly
    | .tabPreserveHeaderOrder => some s.tabPreserveHeaderOrder
    | .tabProfile item => if item ∈ items then some (s.tabProfile item) else none
    | .tabType text => some (s.tabType text)
    | .saveSettings => some s.onSaveSettings
    | .startServer => some s.onStartServer
    | .stopServer completed => some (s.onStopServer completed)
    | .panelPassThroughOnly => some s.panelPassThroughOnly
    | .panelPreserveHeaderOrder => some s.panelPreserveHeaderOrder
    | .panelProfile item => if item ∈ items then some (s.panelProfile item) else none
    | .panelType text => some (s.panelType text)
    | .commitListenAddr => some s.commitListenAddr
    | .startThread thread w => s.startStep thread w
    | .autoStart w => (s.extension.autoStartStep w).map fun extension =>
        { s with extension := extension }

end TlsPlus
