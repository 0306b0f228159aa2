/-
Lost settings.

What a setting ought to be is the value the user last chose for it, in either
place, or the address that a start last persisted.  `Choices` follows that beside
the program: it is told what the user does and what the starts answer, and never
looks at the store.  A text that is typed is chosen when it is committed; a field
that was not typed in since then chooses nothing.

Three actions write settings that they were not about, from widgets that may be
out of date.  A setting is lost exactly if one of them is taken with a widget that
does not show what is stored (`settings_kept_iff`).
-/
import TlsPlus.Extension.SettingsUi
import TlsPlus.Proofs.Extension.AutoStart

namespace TlsPlus

variable {items : List Str}

/-! ### What each action stores -/

namespace SettingsUi

variable (s : SettingsUi)

@[simp] theorem settings_tabPassThroughOnly : s.tabPassThroughOnly.preferences.settings
    = { s.preferences.settings with passThroughOnly := !s.tab.passThroughOnly } :=
  Preferences.settings_setPassThroughOnly s.preferences (!s.tab.passThroughOnly)

@[simp] theorem settings_tabPreserveHeaderOrder : s.tabPreserveHeaderOrder.preferences.settings
    = { s.preferences.settings with preserveHeaderOrder := !s.tab.preserveHeaderOrder } :=
  Preferences.settings_setPreserveHeaderOrder s.preferences (!s.tab.preserveHeaderOrder)

@[simp] theorem settings_tabProfile (item : Str) : (s.tabProfile item).preferences.settings
    = { s.preferences.settings with profileName := item } :=
  Preferences.settings_setProfileName s.preferences item

@[simp] theorem settings_onSaveSettings : s.onSaveSettings.preferences.settings
    = ⟨s.tab.passThroughOnly, s.tab.preserveHeaderOrder,
        s.tab.selectedProfile.getD "pass-through", enteredListenAddr s.tab.listenAddr⟩ := by
  show ((((s.preferences.setServerListenAddr (enteredListenAddr s.tab.listenAddr)
    ).setProfileName (s.tab.selectedProfile.getD "pass-through")
    ).setPassThroughOnly s.tab.passThroughOnly
    ).setPreserveHeaderOrder s.tab.preserveHeaderOrder).settings = _
  rw [Preferences.settings_setPreserveHeaderOrder, Preferences.settings_setPassThroughOnly,
    Preferences.settings_setProfileName, Preferences.settings_setServerListenAddr]

@[simp] theorem settings_onStartServer : s.onStartServer.preferences.settings
    = { s.preferences.settings with
        serverListenAddr := enteredListenAddr s.tab.listenAddr } :=
  Preferences.settings_setServerListenAddr s.preferences (enteredListenAddr s.tab.listenAddr)

@[simp] theorem settings_panelPassThroughOnly : s.panelPassThroughOnly.preferences.settings
    = { s.preferences.settings with passThroughOnly := !s.panel.passThroughOnly } :=
  Preferences.settings_setPassThroughOnly s.preferences (!s.panel.passThroughOnly)

@[simp] theorem settings_panelPreserveHeaderOrder :
    s.panelPreserveHeaderOrder.preferences.settings
      = { s.preferences.settings with preserveHeaderOrder := !s.panel.preserveHeaderOrder } :=
  Preferences.settings_setPreserveHeaderOrder s.preferences (!s.panel.preserveHeaderOrder)

@[simp] theorem settings_panelProfile (item : Str) : (s.panelProfile item).preferences.settings
    = { s.preferences.settings with profileName := item } :=
  Preferences.settings_setProfileName s.preferences item

@[simp] theorem settings_commitListenAddr : s.commitListenAddr.preferences.settings
    = { s.preferences.settings with
        serverListenAddr := enteredListenAddr s.panel.listenAddr } :=
  Preferences.settings_setServerListenAddr s.preferences (enteredListenAddr s.panel.listenAddr)

end SettingsUi

/-! ### What ought to be stored -/

/-- The values last chosen or persisted, and whether a field was typed in since it was last
committed. -/
structure Choices where
  chosen : Settings
  tabEdited : Bool
  panelEdited : Bool

/-- With the address that a start has opened, if it has. -/
def Settings.withLiveAddress (v : Settings) : Option Str → Settings
  | some addr => { v with serverListenAddr := addr }
  | none => v

/-- With the text of an address field, if it was typed in. -/
def Settings.withEntered (v : Settings) (edited : Bool) (text : Str) : Settings :=
  if edited then { v with serverListenAddr := enteredListenAddr text } else v

namespace Choices

def init (p : Preferences) : Choices := ⟨p.settings, false, false⟩

def persist (c : Choices) (liveAddress : Option Str) : Choices :=
  { c with chosen := c.chosen.withLiveAddress liveAddress }

/-- The tab's address field is committed. -/
def commitTab (c : Choices) (text : Str) : Choices :=
  { c with chosen := c.chosen.withEntered c.tabEdited text, tabEdited := false }

def commitPanel (c : Choices) (text : Str) : Choices :=
  { c with chosen := c.chosen.withEntered c.panelEdited text, panelEdited := false }

end Choices

/-- The address a start has opened, as its status tells. -/
def openedAddress (status : Option ServerStatus) : Option Str :=
  if reportsRunning status then status.bind ServerStatus.listenAddr else none

/-- The address the auto-start thread is about to persist. -/
def AutoStartPc.liveAddress : AutoStartPc → Option Str
  | .started status => openedAddress status
  | .retried port status =>
    if reportsRunning status then
      some ((status.bind ServerStatus.listenAddr).getD (fallbackAddress port))
    else none
  | _ => none

def StartThread.liveAddress : StartThread → Option Str
  | .returned status => openedAddress status
  | _ => none

/-- What an event chooses. -/
def UiEvent.choose (s : SettingsUi) (c : Choices) : UiEvent → Choices
  | .tabPassThroughOnly =>
    { c with chosen := { c.chosen with passThroughOnly := !s.tab.passThroughOnly } }
  | .tabPreserveHeaderOrder =>
    { c with chosen := { c.chosen with preserveHeaderOrder := !s.tab.preserveHeaderOrder } }
  | .tabProfile item => { c with chosen := { c.chosen with profileName := item } }
  | .tabType _ => { c with tabEdited := true }
  | .saveSettings => c.commitTab s.tab.listenAddr
  | .startServer => c.commitTab s.tab.listenAddr
  | .stopServer _ => c
  | .panelPassThroughOnly =>
    { c with chosen := { c.chosen with passThroughOnly := !s.panel.passThroughOnly } }
  | .panelPreserveHeaderOrder =>
    { c with chosen := { c.chosen with preserveHeaderOrder := !s.panel.preserveHeaderOrder } }
  | .panelProfile item => { c with chosen := { c.chosen with profileName := item } }
  | .panelType _ => { c with panelEdited := true }
  | .commitListenAddr => c.commitPanel s.panel.listenAddr
  | .startThread thread _ => c.persist ((s.starts[thread]?).bind StartThread.liveAddress)
  | .autoStart _ => c.persist s.extension.autoStart.liveAddress

/-- The program, and beside it what ought to be stored. -/
structure Tracked where
  ui : SettingsUi
  choices : Choices

def Tracked.init (items : List Str) (p : Preferences) : Tracked := ⟨.init items p, .init p⟩

def trackedMachine (items : List Str) : Machine Tracked UiEvent where
  step t event := ((settingsUiMachine items).step t.ui event).map fun ui =>
    ⟨ui, event.choose t.ui t.choices⟩

/-- Every run of the program is followed. -/
theorem exists_tracked {p : Preferences} {events : List UiEvent} {s : SettingsUi}
    (hrun : (settingsUiMachine items).run (.init items p) events = some s) :
    ∃ t : Tracked, (trackedMachine items).run (.init items p) events = some t ∧ t.ui = s := by
  have sim : Machine.Simulation (settingsUiMachine items) (trackedMachine items)
      (fun _ => True) (fun s t => t.ui = s) := by
    refine ⟨fun {s t e s'} hrel _ hstep => ?_⟩
    refine ⟨⟨s', e.choose t.ui t.choices⟩, ?_, rfl⟩
    show ((settingsUiMachine items).step t.ui e).map _ = _
    rw [hrel, hstep]
    rfl
  exact sim.run (by simp) (t := Tracked.init items p) rfl hrun

/-! ### Kept and lost -/

/-- Every setting shows what was last chosen for it. -/
def Tracked.Kept (t : Tracked) : Prop := t.ui.preferences.settings = t.choices.chosen

/-- An action that writes a widget it is not about finds it up to date: it shows what is stored.
A field that was typed in is what the action is about. -/
def UiEvent.UpToDate (t : Tracked) : UiEvent → Prop
  | .saveSettings =>
    t.ui.tab.passThroughOnly = t.ui.preferences.passThroughOnly ∧
    t.ui.tab.preserveHeaderOrder = t.ui.preferences.preserveHeaderOrder ∧
    t.ui.tab.selectedProfile.getD "pass-through" = t.ui.preferences.profileName ∧
    (t.choices.tabEdited = true ∨
      enteredListenAddr t.ui.tab.listenAddr = t.ui.preferences.serverListenAddr)
  | .startServer => t.choices.tabEdited = true ∨
    enteredListenAddr t.ui.tab.listenAddr = t.ui.preferences.serverListenAddr
  | .commitListenAddr => t.choices.panelEdited = true ∨
    enteredListenAddr t.ui.panel.listenAddr = t.ui.preferences.serverListenAddr
  | _ => True

theorem settings_persistLiveAddress (p : Preferences) (status : Option ServerStatus) :
    (persistLiveAddress p status).settings
      = p.settings.withLiveAddress (openedAddress status) := by
  unfold persistLiveAddress openedAddress
  by_cases hrunning : reportsRunning status = true
  · rw [if_pos hrunning, if_pos hrunning]
    cases status.bind ServerStatus.listenAddr with
    | none => rfl
    | some addr => exact Preferences.settings_setServerListenAddr p addr
  · rw [if_neg hrunning, if_neg hrunning]
    rfl

/-- The auto-start thread stores what it persists, and nothing else. -/
theorem settings_of_autoStartStep {s s' : ExtensionState} {w : Option StartWorld}
    (h : s.autoStartStep w = some s') :
    s'.preferences.settings = s.preferences.settings.withLiveAddress s.autoStart.liveAddress := by
  cases autoStartMove_of_step h with
  | persists status hpc hrunning =>
      rw [hpc]
      exact settings_persistLiveAddress s.preferences status
  | fallsBack status hpc hrunning =>
      rw [hpc]
      simp [AutoStartPc.liveAddress, openedAddress, hrunning, Settings.withLiveAddress]
  | persistsRetry port status hpc hrunning =>
      rw [hpc]
      simp [AutoStartPc.liveAddress, hrunning, Settings.withLiveAddress]
  | retryFails port status hpc hrunning next hnext =>
      rw [hpc]
      simp [AutoStartPc.liveAddress, hrunning, Settings.withLiveAddress]
  | wakes hpc | starts _ hpc | retries _ hpc | ends hpc =>
      rw [hpc]
      rfl

/-- A thread of *Start* stores what it persists, and nothing else. -/
theorem settings_of_startStep {s s' : SettingsUi} {thread : Nat} {w : Option StartWorld}
    (h : s.startStep thread w = some s') :
    s'.preferences.settings = s.preferences.settings.withLiveAddress
      ((s.starts[thread]?).bind StartThread.liveAddress) := by
  unfold SettingsUi.startStep at h
  split at h
  · rename_i addr hthread
    rw [← Option.some.inj h, hthread]
    rfl
  · rename_i status hthread
    rw [← Option.some.inj h, hthread]
    exact settings_persistLiveAddress s.preferences status
  · exact absurd h (by simp)

/-- A committed field stores its text; that is right if it was typed in, or shows what is
stored. -/
theorem entered_iff (v : Settings) (edited : Bool) (text : Str) :
    { v with serverListenAddr := enteredListenAddr text } = v.withEntered edited text ↔
      edited = true ∨ enteredListenAddr text = v.serverListenAddr := by
  unfold Settings.withEntered
  cases edited with
  | true => simp
  | false =>
      obtain ⟨passThroughOnly, preserveHeaderOrder, profileName, serverListenAddr⟩ := v
      simp

/-- *Save Settings* stores all four widgets; that is right if each shows what is stored, the
address field being allowed to show what was typed in. -/
theorem saved_iff (v : Settings) (w : Widgets) (edited : Bool) :
    (⟨w.passThroughOnly, w.preserveHeaderOrder, w.selectedProfile.getD "pass-through",
        enteredListenAddr w.listenAddr⟩ : Settings) = v.withEntered edited w.listenAddr ↔
      w.passThroughOnly = v.passThroughOnly ∧ w.preserveHeaderOrder = v.preserveHeaderOrder ∧
        w.selectedProfile.getD "pass-through" = v.profileName ∧
          (edited = true ∨ enteredListenAddr w.listenAddr = v.serverListenAddr) := by
  unfold Settings.withEntered
  obtain ⟨passThroughOnly, preserveHeaderOrder, profileName, serverListenAddr⟩ := v
  cases edited <;> simp

theorem kept_step (t : Tracked) (event : UiEvent) (t' : Tracked) (ht : t.Kept)
    (h : (trackedMachine items).step t event = some t') : t'.Kept ↔ event.UpToDate t := by
  obtain ⟨ui, hstep, rfl⟩ := Option.map_eq_some_iff.mp h
  unfold Tracked.Kept at ht ⊢
  cases event with
  | tabPassThroughOnly =>
      rw [← Option.some.inj hstep]
      simp [UiEvent.choose, UiEvent.UpToDate, ht]
  | tabPreserveHeaderOrder =>
      rw [← Option.some.inj hstep]
      simp [UiEvent.choose, UiEvent.UpToDate, ht]
  | tabProfile item =>
      obtain ⟨-, hui⟩ := Option.ite_none_right_eq_some.mp hstep
      rw [← Option.some.inj hui]
      simp [UiEvent.choose, UiEvent.UpToDate, ht]
  | tabType text =>
      rw [← Option.some.inj hstep]
      exact ⟨fun _ => trivial, fun _ => ht⟩
  | saveSettings =>
      rw [← Option.some.inj hstep, SettingsUi.settings_onSaveSettings]
      show _ = t.choices.chosen.withEntered t.choices.tabEdited t.ui.tab.listenAddr ↔ _
      rw [← ht]
      exact saved_iff t.ui.preferences.settings t.ui.tab t.choices.tabEdited
  | startServer =>
      rw [← Option.some.inj hstep, SettingsUi.settings_onStartServer]
      show _ = t.choices.chosen.withEntered t.choices.tabEdited t.ui.tab.listenAddr ↔ _
      rw [← ht]
      exact entered_iff t.ui.preferences.settings t.choices.tabEdited t.ui.tab.listenAddr
  | stopServer completed =>
      rw [← Option.some.inj hstep]
      exact ⟨fun _ => trivial, fun _ => ht⟩
  | panelPassThroughOnly =>
      rw [← Option.some.inj hstep]
      simp [UiEvent.choose, UiEvent.UpToDate, ht]
  | panelPreserveHeaderOrder =>
      rw [← Option.some.inj hstep]
      simp [UiEvent.choose, UiEvent.UpToDate, ht]
  | panelProfile item =>
      obtain ⟨-, hui⟩ := Option.ite_none_right_eq_some.mp hstep
      rw [← Option.some.inj hui]
      simp [UiEvent.choose, UiEvent.UpToDate, ht]
  | panelType text =>
      rw [← Option.some.inj hstep]
      exact ⟨fun _ => trivial, fun _ => ht⟩
  | commitListenAddr =>
      rw [← Option.some.inj hstep, SettingsUi.settings_commitListenAddr]
      show _ = t.choices.chosen.withEntered t.choices.panelEdited t.ui.panel.listenAddr ↔ _
      rw [← ht]
      exact entered_iff t.ui.preferences.settings t.choices.panelEdited t.ui.panel.listenAddr
  | startThread thread w =>
      refine ⟨fun _ => trivial, fun _ => ?_⟩
      rw [settings_of_startStep hstep, ht]
      rfl
  | autoStart w =>
      obtain ⟨extension, hextension, rfl⟩ := Option.map_eq_some_iff.mp hstep
      refine ⟨fun _ => trivial, fun _ => ?_⟩
      show extension.preferences.settings = _
      have hstored : t.ui.extension.preferences.settings = t.choices.chosen := ht
      rw [settings_of_autoStartStep hextension, hstored]
      rfl

/-- **A setting is lost exactly where an out-of-date widget is written.**  Along every run, each
setting shows what was last chosen or persisted for it if and only if every *Save Settings*,
*Start* and commit of the panel's address finds the widgets it writes up to date. -/
theorem settings_kept_iff {p : Preferences} {events : List UiEvent} {s : SettingsUi}
    (hrun : (settingsUiMachine items).run (.init items p) events = some s) :
    (trackedMachine items).Along Tracked.Kept (.init items p) events ↔
      (trackedMachine items).Meets (fun t event => event.UpToDate t) (.init items p) events := by
  obtain ⟨t, htracked, -⟩ := exists_tracked hrun
  have hinit : (Tracked.init items p).Kept := rfl
  exact Machine.along_iff_meets kept_step hinit htracked

/-! ### Two sequences of actions -/

/-- The tab alone is used, and its widgets stay up to date. -/
theorem settings_kept_iff_tab :
    (trackedMachine ["chrome_149", "firefox_128"]).Along Tracked.Kept
      (.init ["chrome_149", "firefox_128"] .empty)
      [.tabPassThroughOnly, .tabProfile "firefox_128", .tabType " 127.0.0.1:9000 ",
        .saveSettings] := by
  have hrun : (settingsUiMachine ["chrome_149", "firefox_128"]).run
      (.init ["chrome_149", "firefox_128"] .empty)
      [.tabPassThroughOnly, .tabProfile "firefox_128", .tabType " 127.0.0.1:9000 ",
        .saveSettings] = some _ := rfl
  refine (settings_kept_iff hrun).mpr ?_
  refine .cons trivial rfl (.cons trivial rfl (.cons trivial rfl (.cons ?_ rfl trivial)))
  exact ⟨by decide, by decide, by decide, Or.inl rfl⟩

/-- **A setting is lost**: safe mode is switched on in the panel, and *Save Settings* on the tab,
whose box nobody touched, switches it off again. -/
theorem save_settings_reverts :
    ∃ t, (trackedMachine ["chrome_149"]).run (.init ["chrome_149"] .empty)
        [.panelPassThroughOnly, .saveSettings] = some t ∧
      t.choices.chosen.passThroughOnly = true ∧
      t.ui.preferences.passThroughOnly = false ∧ ¬t.Kept := by
  have hlost : ((trackedMachine ["chrome_149"]).run (.init ["chrome_149"] .empty)
      [.panelPassThroughOnly, .saveSettings]).map (fun t =>
        (t.choices.chosen.passThroughOnly, t.ui.preferences.passThroughOnly))
      = some (true, false) := by decide
  obtain ⟨t, hrun, ht⟩ := Option.map_eq_some_iff.mp hlost
  rw [Prod.mk.injEq] at ht
  refine ⟨t, hrun, ht.1, ht.2, fun hkept => ?_⟩
  have hsame : t.ui.preferences.passThroughOnly = t.choices.chosen.passThroughOnly :=
    congrArg Settings.passThroughOnly hkept
  rw [ht.1, ht.2] at hsame
  exact Bool.false_ne_true hsame

end TlsPlus
