/-
What is chosen is what is sent.

Between the choice of a profile on the tab or the panel and the handshake its requests
are made with lie the store of the settings, the handler, a header, the proxy's reading
of it, the lookup in the catalogue and the pool of clients that any number of requests
share.  None of them mistakes the name: a redirected request is sent by a client with the
emulation of the profile that is stored, and what the core tells of that profile is read
off this very emulation (`chosen_profile_is_sent`).

It is relied on that the names of the catalogue are in lower case and told apart, and
that no declared profile takes one of the labels.
-/
import TlsPlus.ProfileInfo
import TlsPlus.Proofs.Extension.CoreCalls
import TlsPlus.Proofs.Extension.Redirect
import TlsPlus.Proofs.Extension.SettingsUi
import TlsPlus.Proofs.Transport

namespace TlsPlus

open Text

variable {Profile Platform Emulation : Type} {u : WreqUtil Profile Platform Emulation}

/-! ### Names -/

/-- What is relied on of the names: they are in lower case, no two are the same, and none is a
label. -/
structure NamedApart (u : WreqUtil Profile Platform Emulation) : Prop where
  lower : ∀ p, toAsciiLowercase (u.profileName p) = u.profileName p
  unique : (profileNames u).Nodup
  unlabelled : ∀ p, u.profileName p ∉ profileLabels

theorem NamedApart.lower_of_mem (h : NamedApart u) {p : TlsProfile Profile Platform}
    (hp : p ∈ profiles u) : toAsciiLowercase p.name = p.name := by
  have htable : ∀ e ∈ aliasTable, toAsciiLowercase e.1 = e.1 := by decide
  unfold profiles at hp
  rcases List.mem_append.mp hp with hdeclared | hother
  · obtain ⟨profile, -, rfl⟩ := List.mem_map.mp hdeclared
    exact h.lower profile
  · exact htable _ (mem_aliasTable hother)

/-- **A profile is found under its own name.** -/
theorem NamedApart.byName_of_mem (h : NamedApart u) {p : TlsProfile Profile Platform}
    (hp : p ∈ profiles u) : byName u p.name = some p := by
  cases hfind : byName u p.name with
  | none =>
      have hnone := List.find?_eq_none.mp hfind p hp
      rw [eqIgnoreAsciiCase_refl] at hnone
      exact absurd rfl hnone
  | some q =>
      have hq : q ∈ profiles u := List.mem_of_find?_eq_some hfind
      have hsame : eqIgnoreAsciiCase q.name p.name = true := by simpa using List.find?_some hfind
      rw [eqIgnoreAsciiCase_iff, h.lower_of_mem hq, h.lower_of_mem hp] at hsame
      rw [List.inj_on_of_nodup_map h.unique hq hp hsame]

/-- No label is a name of the catalogue. -/
theorem NamedApart.byName_of_label (h : NamedApart u) {name : Str} (hname : name ∈ profileLabels) :
    byName u name = none := by
  have hlower : ∀ label ∈ profileLabels, toAsciiLowercase label = label := by decide
  have htable : ∀ e ∈ aliasTable, e.1 ∉ profileLabels := by decide
  refine List.find?_eq_none.mpr fun p hp hsame => ?_
  rw [eqIgnoreAsciiCase_iff, h.lower_of_mem hp, hlower name hname] at hsame
  rw [← hsame] at hname
  unfold profiles at hp
  rcases List.mem_append.mp hp with hdeclared | hother
  · obtain ⟨profile, -, rfl⟩ := List.mem_map.mp hdeclared
    exact h.unlabelled profile hname
  · exact htable _ (mem_aliasTable hother) hname

/-- A name of the catalogue stands for its own profile's emulation. -/
theorem NamedApart.namedEmulation_of_mem (h : NamedApart u) (hu : u.Lawful)
    {p : TlsProfile Profile Platform} (hp : p ∈ profiles u) :
    namedEmulation u p.name = p.emulation u := by
  have hfind := h.byName_of_mem hp
  have hpass : ¬eqIgnoreAsciiCase p.name "pass-through" = true := by
    intro hpass
    have hnone : byName u "pass-through" = none := byName_passThrough hu
    rw [← byName_congr u hpass, hfind] at hnone
    exact absurd hnone (by simp)
  unfold namedEmulation
  rw [if_neg hpass]
  unfold byName at hfind
  rw [hfind]

/-- A label stands for wreq's own handshake. -/
theorem NamedApart.namedEmulation_of_label (h : NamedApart u) {name : Str}
    (hname : name ∈ profileLabels) : namedEmulation u name = none := by
  have hfind := h.byName_of_label hname
  unfold byName at hfind
  unfold namedEmulation
  rw [hfind]
  split <;> rfl

/-! ### What is stored -/

variable {items : List Str} {name₀ : Str} {s s' : SettingsUi}

/-- The profile that is stored was stored to begin with, or was offered. -/
structure OffersOnly (items : List Str) (name₀ : Str) (s : SettingsUi) : Prop where
  stored : s.preferences.profileName = name₀ ∨ s.preferences.profileName ∈ items
  selected : ∀ name, s.tab.selectedProfile = some name → name ∈ items

theorem selectInitial_mem {name selected : Str} (h : selectInitial items name = some selected) :
    selected ∈ items := by
  unfold selectInitial at h
  split at h
  · rename_i hmem
    rwa [← Option.some.inj h]
  · exact List.mem_of_head? h

theorem offersOnly_init (p : Preferences) : OffersOnly items p.profileName (.init items p) where
  stored := Or.inl rfl
  selected _ h := selectInitial_mem h

namespace OffersOnly

/-- A step that leaves the stored profile and the tab's choice alone. -/
theorem keep (h : OffersOnly items name₀ s)
    (hstored : s'.preferences.settings.profileName = s.preferences.settings.profileName)
    (hselected : s'.tab.selectedProfile = s.tab.selectedProfile) : OffersOnly items name₀ s' where
  stored := by
    have hname : s'.preferences.profileName = s.preferences.profileName := hstored
    rw [hname]
    exact h.stored
  selected name hname := h.selected name (hselected ▸ hname)

theorem autoStart (h : OffersOnly items name₀ s) {w : Option StartWorld}
    {extension : ExtensionState} (hstep : s.extension.autoStartStep w = some extension) :
    OffersOnly items name₀ { s with extension := extension } := by
  refine h.keep ?_ rfl
  have hsettings := settings_of_autoStartStep hstep
  show extension.preferences.settings.profileName = _
  rw [hsettings]
  cases s.extension.autoStart.liveAddress <;> rfl

theorem startThread (h : OffersOnly items name₀ s) {thread : Nat} {w : Option StartWorld}
    (hstep : s.startStep thread w = some s') : OffersOnly items name₀ s' := by
  refine h.keep ?_ ?_
  · rw [settings_of_startStep hstep]
    cases (s.starts[thread]?).bind StartThread.liveAddress <;> rfl
  · unfold SettingsUi.startStep at hstep
    split at hstep
    · rw [← Option.some.inj hstep]
    · rw [← Option.some.inj hstep]
      rfl
    · exact absurd hstep (by simp)

theorem step (h : OffersOnly items name₀ s) (hpass : ("pass-through" : Str) ∈ items)
    {event : UiEvent} (hstep : (settingsUiMachine items).step s event = some s') :
    OffersOnly items name₀ s' := by
  cases event with
  | tabPassThroughOnly =>
      rw [← Option.some.inj hstep]
      exact h.keep (by rw [SettingsUi.settings_tabPassThroughOnly]) rfl
  | tabPreserveHeaderOrder =>
      rw [← Option.some.inj hstep]
      exact h.keep (by rw [SettingsUi.settings_tabPreserveHeaderOrder]) rfl
  | tabProfile item =>
      obtain ⟨hitem, hs'⟩ := Option.ite_none_right_eq_some.mp hstep
      rw [← Option.some.inj hs']
      refine ⟨Or.inr ?_, fun name hname => Option.some.inj hname ▸ hitem⟩
      show (s.tabProfile item).preferences.settings.profileName ∈ items
      rw [SettingsUi.settings_tabProfile]
      exact hitem
  | tabType text =>
      rw [← Option.some.inj hstep]
      exact h.keep rfl rfl
  | saveSettings =>
      rw [← Option.some.inj hstep]
      refine ⟨Or.inr ?_, h.selected⟩
      show s.onSaveSettings.preferences.settings.profileName ∈ items
      rw [SettingsUi.settings_onSaveSettings]
      show s.tab.selectedProfile.getD "pass-through" ∈ items
      cases hselected : s.tab.selectedProfile with
      | none => exact hpass
      | some name => exact h.selected name hselected
  | startServer =>
      rw [← Option.some.inj hstep]
      exact h.keep (by rw [SettingsUi.settings_onStartServer]) rfl
  | stopServer completed =>
      rw [← Option.some.inj hstep]
      exact h.keep rfl rfl
  | panelPassThroughOnly =>
      rw [← Option.some.inj hstep]
      exact h.keep (by rw [SettingsUi.settings_panelPassThroughOnly]) rfl
  | panelPreserveHeaderOrder =>
      rw [← Option.some.inj hstep]
      exact h.keep (by rw [SettingsUi.settings_panelPreserveHeaderOrder]) rfl
  | panelProfile item =>
      obtain ⟨hitem, hs'⟩ := Option.ite_none_right_eq_some.mp hstep
      rw [← Option.some.inj hs']
      refine ⟨Or.inr ?_, h.selected⟩
      show (s.panelProfile item).preferences.settings.profileName ∈ items
      rw [SettingsUi.settings_panelProfile]
      exact hitem
  | panelType text =>
      rw [← Option.some.inj hstep]
      exact h.keep rfl rfl
  | commitListenAddr =>
      rw [← Option.some.inj hstep]
      exact h.keep (by rw [SettingsUi.settings_commitListenAddr]) rfl
  | startThread thread w => exact h.startThread hstep
  | autoStart w =>
      obtain ⟨extension, hextension, rfl⟩ := Option.map_eq_some_iff.mp hstep
      exact h.autoStart hextension

end OffersOnly

/-- The core's list and what stands in for it both offer pass-through. -/
theorem pass_through_offered (paths : LoaderPaths) {w : CallWorld} (core : CoreState)
    (hcore : ∀ names, w.native.availableProfiles = .ok names → names = availableProfiles u) :
    ("pass-through" : Str) ∈ (TlsPlusCore.profiles paths w core).1 := by
  have halone : ("pass-through" : Str) ∈ (["pass-through"] : List Str) := List.mem_cons_self
  unfold TlsPlusCore.profiles
  rcases value_withNativeServer paths w core (fun server => (w.native.availableProfiles, server))
      (fun _ => (["pass-through"] : List Str)) with
    ⟨e, -, hvalue⟩ | ⟨-, ⟨e, -, hvalue⟩ | ⟨names, hnames, hvalue⟩⟩
  · rw [hvalue]
    exact halone
  · rw [hvalue]
    exact halone
  · rw [hvalue, hcore names hnames]
    exact List.mem_append_left _ List.mem_cons_self

/-! ### What is sent -/

variable {Message Client : Type} {mo : Montoya Message} {k : Kotlin} {settings : Preferences}
  {endpoint : Option Str} {m : Message} {request : Request}

/-- **Whatever path a redirected request takes, the client of the active profile sends it.** -/
theorem client_of_redirected (hmo : mo.Lawful) (h : Redirects k mo settings endpoint m request)
    {w : World Client} {out : OutboundRequest Client} (hout : out ∈ (proxyService w request).sent) :
    w.getWreqClient settings.profileName = .ok out.client := by
  rcases proxyService_cases w request with ⟨status, message, -, hcase⟩ |
    ⟨metadata, uri, client, hadmits⟩ | ⟨transport, metadata, uri, client, hadmits⟩
  · rw [hcase] at hout
    exact absurd hout List.not_mem_nil
  · obtain rfl := Except.ok.inj (hadmits.metadataOk.symm.trans (h.plainMetadata_eq hmo))
    rw [proxyService_of_admitsPlain hadmits] at hout
    rw [List.mem_singleton.mp hout]
    exact hadmits.clientOk
  · obtain rfl := Except.ok.inj (hadmits.metadataOk.symm.trans (h.websocketMetadata_eq hmo))
    rw [proxyService_of_admitsWebsocket hadmits] at hout
    rw [List.mem_singleton.mp hout]
    exact hadmits.clientOk

/-- The client is what a call for the name has returned from the shared pool, among any others. -/
def FromPool (u : WreqUtil Profile Platform Emulation) (name : Str)
    (client : WreqClient Emulation) : Prop :=
  ∃ (events : List (BuildCache.Event Str Str (Except Str Nat)))
    (pool : BuildCache.State Str Str (WreqClient Emulation) Str),
    (TlsPlus.getWreqClient u).machine.run .init events = some pool ∧
      ⟨name, .done (.ok client)⟩ ∈ pool.calls

theorem emulation_of_fromPool (hu : u.Lawful) {name : Str} {client : WreqClient Emulation}
    (h : FromPool u name client) : client.emulation = namedEmulation u name := by
  obtain ⟨events, pool, hrun, hcall⟩ := h
  have hsound : BuildCache.Sound (getWreqClient u) (BuiltFor u) pool :=
    BuildCache.sound_of_run (builtFor_of_build hu) hrun
  exact hsound.returned _ hcall client rfl name rfl

/-- The proxy's clients come from the shared pool. -/
def World.Pools (u : WreqUtil Profile Platform Emulation) (w : World (WreqClient Emulation)) :
    Prop :=
  ∀ name client, w.getWreqClient name = .ok client → FromPool u name client

/-- What the core tells of a profile, if its clients have this emulation. -/
def detailsOf (tlsOptions : Emulation → Option TlsOptions) (p : TlsProfile Profile Platform)
    (emulation : Option Emulation) : TlsProfileInfo :=
  ⟨p.name, p.description, cipherCountOf tlsOptions emulation,
    alpnProtocolsOf tlsOptions emulation⟩

/-- **The profile that is chosen is the one that is sent, and the one that is told of.**  Whatever
was done on the tab and the panel, the profile stored is the one stored to begin with or one that
was offered, be that the core's list or, without the core, pass-through alone; and every request
sent in place of a redirected message, on either path through the proxy and whatever else the pool
has served, is made by a client with the emulation of the stored profile: for a name of the
catalogue that of its own entry, of which the core tells the ciphers and ALPN protocols of this
very emulation; for a label none, and nothing is told. -/
theorem chosen_profile_is_sent (hu : u.Lawful) (hnames : NamedApart u)
    (tlsOptions : Emulation → Option TlsOptions) (hmo : mo.Lawful) {items : List Str}
    (hpass : ("pass-through" : Str) ∈ items) {p₀ : Preferences} {events : List UiEvent}
    {s : SettingsUi}
    (hrun : (settingsUiMachine items).run (.init items p₀) events = some s)
    (h : Redirects k mo s.preferences endpoint m request)
    {w : World (WreqClient Emulation)} (hpool : w.Pools u) :
    (s.preferences.profileName = p₀.profileName ∨ s.preferences.profileName ∈ items) ∧
    ∀ out ∈ (proxyService w request).sent,
      (∀ p ∈ profiles u, p.name = s.preferences.profileName →
        out.client.emulation = p.emulation u ∧
        getTlsProfile u tlsOptions s.preferences.profileName
          = some (detailsOf tlsOptions p out.client.emulation)) ∧
      (s.preferences.profileName ∈ profileLabels →
        out.client.emulation = none ∧
        getTlsProfile u tlsOptions s.preferences.profileName = none) := by
  have hoffers : OffersOnly items p₀.profileName s :=
    Machine.run_invariant (P := OffersOnly items p₀.profileName)
      (fun _ _ _ inv hstep => inv.step hpass hstep) (offersOnly_init p₀) hrun
  refine ⟨hoffers.stored, fun out hout => ?_⟩
  have hemulation := emulation_of_fromPool hu (hpool _ _ (client_of_redirected hmo h hout))
  refine ⟨fun p hp hname => ?_, fun hlabel => ?_⟩
  · have hown : out.client.emulation = p.emulation u := by
      rw [hemulation, ← hname]
      exact hnames.namedEmulation_of_mem hu hp
    refine ⟨hown, ?_⟩
    unfold getTlsProfile
    rw [← hname, hnames.byName_of_mem hp, hown]
    rfl
  · refine ⟨hemulation.trans (hnames.namedEmulation_of_label hlabel), ?_⟩
    unfold getTlsProfile
    rw [hnames.byName_of_label hlabel]
    rfl

/-! ### A choice -/

theorem sampleUtil_namedApart : NamedApart sampleUtil where
  lower p := by cases p <;> decide
  unique := by decide
  unlabelled p := by cases p <;> decide

/-- Safe mode is on in the store; it is switched off on the panel, and a profile is picked there. -/
def sampleChoice : List UiEvent := [.panelPassThroughOnly, .panelProfile "android_chrome"]

def sampleStore : Preferences := Preferences.empty.setPassThroughOnly true

def androidRequest : Request :=
  { postRequest with
    headers := ⟨postRequest.headers.entries.take 2 ++
      (.xTlsplusProfile, .fromStatic "android_chrome") :: postRequest.headers.entries.drop 3⟩ }

/-- The client that the race built for the name. -/
def androidClient : WreqClient (SampleProfile × Option SamplePlatform) :=
  ⟨9, some (.chrome149, some .android), true, 10, 90, 32, false, false⟩

def pooledWorld : World (WreqClient (SampleProfile × Option SamplePlatform)) where
  parseUri := sampleParseUri
  getWreqClient name :=
    if name = ("android_chrome" : Str) then .ok androidClient else .error "no client"
  deadlineInRange secs := secs ≤ 9000000000000000000
  send := .timeout
  upgrade := .upgraded 9
  bridgeOpen := true

theorem pooledWorld_pools : pooledWorld.Pools sampleUtil := by
  intro name client h
  have hcalls : ((getWreqClient sampleUtil).machine.run .init raceEvents).map
      (fun pool => decide (⟨"android_chrome", .done (.ok androidClient)⟩ ∈ pool.calls))
      = some true := by decide
  obtain ⟨pool, hrun, hcall⟩ := Option.map_eq_some_iff.mp hcalls
  unfold pooledWorld at h
  simp only at h
  split at h
  · rename_i hname
    rw [hname, ← Except.ok.inj h]
    exact ⟨raceEvents, pool, hrun, of_decide_eq_true hcall⟩
  · exact absurd h (by simp)

/-- It is sent by Chrome on Android. -/
theorem chosen_profile_is_sent_sample : ∃ s,
    (settingsUiMachine (availableProfiles sampleUtil)).run
        (.init (availableProfiles sampleUtil) sampleStore) sampleChoice = some s ∧
      ∃ out, out ∈ (proxyService pooledWorld androidRequest).sent ∧
        out.client.emulation = some (.chrome149, some .android) := by
  have hends : ((settingsUiMachine (availableProfiles sampleUtil)).run
      (.init (availableProfiles sampleUtil) sampleStore) sampleChoice).map (fun s =>
        decide (s.preferences.profileName = ("android_chrome" : Str)) &&
          (redirected sampleKotlin sampleMontoya s.preferences (some ("127.0.0.1:43117" : Str))
            postMessage).isSome) = some true := by decide
  obtain ⟨s, hrun, hs⟩ := Option.map_eq_some_iff.mp hends
  rw [Bool.and_eq_true, decide_eq_true_iff] at hs
  have hredirects : Redirects sampleKotlin sampleMontoya s.preferences
      (some ("127.0.0.1:43117" : Str)) postMessage androidRequest := by
    refine ⟨hs.2, deliveredAll_of_fields ?_, ⟨⟨by decide, by decide⟩, by decide⟩, ?_⟩
    · rw [← Option.some.inj hrun]
      show List.Forall₂ _ ([("Content-Length", "2"), ("X-Tlsplus-Target", "https://up.example/"),
        ("X-Tlsplus-Profile", "android_chrome"), ("X-Tlsplus-Timeout", "30")] : List (Str × Str)) _
      simp only [androidRequest, postRequest, hostileRequest, List.take, List.drop,
        List.cons_append, List.nil_append, List.forall₂_cons, List.Forall₂.nil, and_true]
      decide
    · rw [hs.1]
      exact ⟨⟨by decide, by decide⟩, by decide⟩
  have hpass : ("pass-through" : Str) ∈ availableProfiles sampleUtil :=
    List.mem_append_left _ List.mem_cons_self
  obtain ⟨-, hsent⟩ := chosen_profile_is_sent sampleUtil_lawful sampleUtil_namedApart
    (fun _ => none) sampleMontoya_lawful hpass hrun hredirects pooledWorld_pools
  obtain ⟨out, hout⟩ : ∃ out, (proxyService pooledWorld androidRequest).sent = [out] := ⟨_, rfl⟩
  have hmem : out ∈ (proxyService pooledWorld androidRequest).sent := by
    rw [hout]
    exact List.mem_cons_self
  have hprofile : TlsProfile.aliasOf "android_chrome" "Android Chrome 149"
      (some sampleUtil.chrome149) (some sampleUtil.android) ∈ profiles sampleUtil := by decide
  have hown := ((hsent out hmem).1 _ hprofile hs.1.symm).1
  exact ⟨s, hrun, out, hmem, hown⟩

end TlsPlus
