/-
No request is served by a client of another fingerprint.

`get_wreq_client` never compares fingerprints: it compares pool keys, which are
texts put together from the names of a profile and a platform, and it builds under
a third text, the canonical name.  So the pool is isolated exactly because a pool
key can be read back (`emulation_of_poolKey`) and because looking a profile up by
its canonical name finds the profile again (`wreqEmulation_canonicalName`).

Given those two, every build is good for its key, and `BuildCache.sound_of_run`
carries that through every interleaving of the callers.
-/
import Mathlib.Data.List.Basic
import TlsPlus.Transport

namespace TlsPlus

open Text

variable {Profile Platform Emulation : Type} {u : WreqUtil Profile Platform Emulation}

/-! ### Looking a profile up by name -/

theorem byName_congr (u : WreqUtil Profile Platform Emulation) {s t : Str}
    (h : eqIgnoreAsciiCase s t = true) : byName u s = byName u t := by
  unfold byName
  congr 1
  funext p
  exact eqIgnoreAsciiCase_congr h p.name

/-- A profile is found again under its own name. -/
theorem byName_name {name : Str} {p : TlsProfile Profile Platform}
    (h : byName u name = some p) : byName u p.name = some p := by
  have hname : eqIgnoreAsciiCase p.name name = true := by simpa using List.find?_some h
  rw [byName_congr u hname, h]

/-- Under a name that no declared profile has, only an alias can be found. -/
theorem byName_of_not_declared (name : Str)
    (h : ∀ p, eqIgnoreAsciiCase (u.profileName p) name = false) :
    byName u name = (compatibilityAliases u).find? fun p => eqIgnoreAsciiCase p.name name := by
  unfold byName profiles
  rw [List.find?_append, List.find?_eq_none.mpr, Option.none_or]
  intro p hp
  obtain ⟨profile, -, rfl⟩ := List.mem_map.mp hp
  simp [TlsProfile.fromWreq, h profile]

/-- The alias table's names, and which of them leave wreq's own handshake alone. -/
def aliasTable : List (Str × Bool) :=
  [("chrome_149_stable", false), ("firefox_current", false), ("firefox_130", false),
   ("safari_17", false), ("edge_120", false), ("ios_safari_17", false),
   ("android_chrome", false), ("python_urllib3", true), ("rustls_default", true),
   ("curl_8", true)]

private theorem aliasTable_eq :
    (compatibilityAliases u).map (fun p => (p.name, p.wreqProfile.isNone)) = aliasTable := rfl

theorem mem_aliasTable {p : TlsProfile Profile Platform}
    (h : p ∈ compatibilityAliases u) : (p.name, p.wreqProfile.isNone) ∈ aliasTable := by
  rw [← aliasTable_eq (u := u)]
  exact List.mem_map_of_mem h

theorem byName_passThrough (hu : u.Lawful) : byName u passThroughProfile = none := by
  have htable : ∀ e ∈ aliasTable, eqIgnoreAsciiCase e.1 passThroughProfile = false := by decide
  rw [byName_of_not_declared passThroughProfile hu.ne_passThrough, List.find?_eq_none]
  intro p hp
  have hne := htable _ (mem_aliasTable hp)
  simpa using hne

/-- The fallback profile is in the table and leaves wreq's own handshake alone. -/
theorem byName_fallback (hu : u.Lawful) :
    ∃ p, byName u fallbackProfile = some p ∧ p.wreqProfile = none := by
  have htable : ∀ e ∈ aliasTable, eqIgnoreAsciiCase e.1 fallbackProfile = true → e.2 = true := by
    decide
  have hmem : TlsProfile.aliasOf "rustls_default"
      "Default wreq transport; no rustls identity is available" none none
        ∈ compatibilityAliases u := List.mem_of_getElem? (i := 8) rfl
  rw [byName_of_not_declared fallbackProfile hu.ne_fallback]
  cases hfind : (compatibilityAliases u).find?
      fun p => eqIgnoreAsciiCase p.name fallbackProfile with
  | none => exact absurd (eqIgnoreAsciiCase_refl _) (List.find?_eq_none.mp hfind _ hmem)
  | some p =>
      have hname := List.find?_some hfind
      have hnone := htable _ (mem_aliasTable (List.mem_of_find?_eq_some hfind)) hname
      exact ⟨p, rfl, by simpa using hnone⟩

/-! ### What a name stands for -/

/-- The emulation a name stands for: none for the pass-through label, that of the first
catalogue entry of the name, and none for a name that is not in the catalogue. -/
def namedEmulation (u : WreqUtil Profile Platform Emulation) (name : Str) : Option Emulation :=
  if eqIgnoreAsciiCase name "pass-through" then none
  else match (profiles u).find? fun p => eqIgnoreAsciiCase p.name name with
    | some p => p.emulation u
    | none => none

theorem emulation_of_none {p : TlsProfile Profile Platform} (h : p.wreqProfile = none) :
    p.emulation u = none := by
  simp [TlsProfile.emulation, h]

theorem namedEmulation_eq (hu : u.Lawful) (name : Str) :
    namedEmulation u name = (resolveProfile u name).bind (TlsProfile.emulation u) := by
  obtain ⟨fallback, hfallback, hnone⟩ := byName_fallback hu
  unfold namedEmulation resolveProfile passThroughProfile
  by_cases hpass : eqIgnoreAsciiCase name "pass-through" = true
  · rw [if_pos hpass, if_pos hpass]
    rfl
  · rw [if_neg hpass, if_neg hpass, hfallback]
    unfold byName
    cases (profiles u).find? fun p => eqIgnoreAsciiCase p.name name with
    | none => exact (emulation_of_none hnone).symm
    | some p => rfl

/-- **The second lookup finds what the first one found.** -/
theorem wreqEmulation_canonicalName (hu : u.Lawful) (name : Str) :
    wreqEmulation u (canonicalName u name) = namedEmulation u name := by
  obtain ⟨fallback, hfallback, -⟩ := byName_fallback hu
  rw [namedEmulation_eq hu]
  unfold wreqEmulation canonicalName resolveProfile
  by_cases hpass : eqIgnoreAsciiCase name passThroughProfile = true
  · rw [if_pos hpass]
    simp [byName_passThrough hu]
  · rw [if_neg hpass]
    cases hfind : byName u name with
    | some p => simp [byName_name hfind]
    | none => simp [hfallback, byName_name hfallback]

/-! ### Reading a pool key back -/

/-- A key with a platform in it is not a declared profile's own name. -/
theorem poolKey_at_mem {p : TlsProfile Profile Platform} {profile : Profile} {platform : Platform}
    (hp : p.wreqProfile = some profile) (hpl : p.platform = some platform) :
    '@' ∈ p.poolKey u := by
  simp [TlsProfile.poolKey, hp, hpl]

theorem poolKey_at_not_mem (hu : u.Lawful) {p : TlsProfile Profile Platform}
    (h : p.wreqProfile = none ∨ p.platform = none) : '@' ∉ p.poolKey u := by
  unfold TlsProfile.poolKey
  split
  · rcases h with h | h <;> simp_all
  · exact hu.at_not_mem _
  · decide

/-- Only profiles without a browser profile are pooled under `default`. -/
theorem wreqProfile_of_poolKey_default (hu : u.Lawful) {p : TlsProfile Profile Platform}
    (h : p.poolKey u = "default") : p.wreqProfile = none := by
  unfold TlsProfile.poolKey at h
  split at h
  · have hat : '@' ∈ ("default" : Str) := by rw [← h]; simp
    exact absurd hat (by decide)
  · exact absurd h (hu.ne_default _)
  · assumption

/-- **A pool key says which profile and platform it was made of.** -/
theorem emulation_of_poolKey (hu : u.Lawful) {p q : TlsProfile Profile Platform}
    (h : p.poolKey u = q.poolKey u) : p.emulation u = q.emulation u := by
  cases hp : p.wreqProfile with
  | none =>
      have hkey : p.poolKey u = "default" := by simp [TlsProfile.poolKey, hp]
      have hq := wreqProfile_of_poolKey_default hu (h.symm.trans hkey)
      rw [emulation_of_none hp, emulation_of_none hq]
  | some a =>
      cases hq : q.wreqProfile with
      | none =>
          have hkey : q.poolKey u = "default" := by simp [TlsProfile.poolKey, hq]
          rw [wreqProfile_of_poolKey_default hu (h.trans hkey)] at hp
          cases hp
      | some b =>
          unfold TlsProfile.emulation
          rw [hp, hq]
          cases hpp : p.platform with
          | none =>
              cases hqp : q.platform with
              | none =>
                  have hab : u.profileName a = u.profileName b := by
                    simpa [TlsProfile.poolKey, hp, hq, hpp, hqp] using h
                  rw [hu.profileName_injective hab]
              | some y =>
                  have hat := poolKey_at_mem (u := u) hq hqp
                  rw [← h] at hat
                  exact absurd hat (poolKey_at_not_mem hu (Or.inr hpp))
          | some x =>
              cases hqp : q.platform with
              | none =>
                  have hat := poolKey_at_mem (u := u) hp hpp
                  rw [h] at hat
                  exact absurd hat (poolKey_at_not_mem hu (Or.inr hqp))
              | some y =>
                  have hsplit : u.profileName a ++ '@' :: u.platformName x
                      = u.profileName b ++ '@' :: u.platformName y := by
                    simpa [TlsProfile.poolKey, hp, hq, hpp, hqp] using h
                  obtain ⟨hab, hxy⟩ :=
                    append_separator_inj (hu.at_not_mem a) (hu.at_not_mem b) hsplit
                  rw [hu.profileName_injective hab, hu.platformName_injective hxy]

/-- Names of one pool stand for one emulation. -/
theorem namedEmulation_of_clientPoolKey (hu : u.Lawful) {s t : Str}
    (h : clientPoolKey u s = clientPoolKey u t) : namedEmulation u s = namedEmulation u t := by
  rw [namedEmulation_eq hu, namedEmulation_eq hu]
  unfold clientPoolKey at h
  cases hs : resolveProfile u s with
  | none =>
      cases ht : resolveProfile u t with
      | none => rfl
      | some q =>
          rw [hs, ht] at h
          exact (emulation_of_none (wreqProfile_of_poolKey_default hu h.symm)).symm
  | some p =>
      cases ht : resolveProfile u t with
      | none =>
          rw [hs, ht] at h
          exact emulation_of_none (wreqProfile_of_poolKey_default hu h)
      | some q =>
          rw [hs, ht] at h
          exact emulation_of_poolKey hu h

/-! ### Isolation -/

/-- A client that may stand in the pool of `key`: it was built with the emulation of every
name of that pool. -/
def BuiltFor (u : WreqUtil Profile Platform Emulation) (key : Str)
    (client : WreqClient Emulation) : Prop :=
  ∀ name, clientPoolKey u name = key → client.emulation = namedEmulation u name

theorem builtFor_of_build (hu : u.Lawful) (name : Str) (outcome : Except Str Nat)
    (client : WreqClient Emulation) (h : (getWreqClient u).build name outcome = .ok client) :
    BuiltFor u (clientPoolKey u name) client := by
  have hclient : client.emulation = wreqEmulation u (canonicalName u name) := by
    cases outcome with
    | error e => cases h
    | ok id => cases h; rfl
  intro other hkey
  rw [hclient, wreqEmulation_canonicalName hu]
  exact (namedEmulation_of_clientPoolKey hu hkey).symm

/-- **The pool is isolated.**  In every interleaving of any number of calls, a call that
returns a client returns one built with exactly the emulation its name stands for; so no two
names of different emulations are ever served by one client. -/
theorem profile_isolation (hu : u.Lawful)
    {events : List (BuildCache.Event Str Str (Except Str Nat))}
    {s : BuildCache.State Str Str (WreqClient Emulation) Str}
    (hrun : (getWreqClient u).machine.run .init events = some s) :
    (∀ call ∈ s.calls, ∀ client, call.phase = .done (.ok client) →
      client.emulation = namedEmulation u call.request) ∧
    ∀ call ∈ s.calls, ∀ other ∈ s.calls, ∀ client, call.phase = .done (.ok client) →
      other.phase = .done (.ok client) →
        namedEmulation u call.request = namedEmulation u other.request := by
  have hsound : BuildCache.Sound (getWreqClient u) (BuiltFor u) s :=
    BuildCache.sound_of_run (builtFor_of_build hu) hrun
  have hexact : ∀ call ∈ s.calls, ∀ client, call.phase = .done (.ok client) →
      client.emulation = namedEmulation u call.request := by
    intro call hcall client hdone
    exact hsound.returned call hcall client hdone call.request rfl
  refine ⟨hexact, fun call hcall other hother client hdone hdone' => ?_⟩
  rw [← hexact call hcall client hdone, hexact other hother client hdone']

/-! ### Coherence -/

/-- Names that differ in ASCII case only are resolved alike. -/
theorem resolveProfile_congr (u : WreqUtil Profile Platform Emulation) {s t : Str}
    (h : eqIgnoreAsciiCase s t = true) : resolveProfile u s = resolveProfile u t := by
  have hpass : eqIgnoreAsciiCase s passThroughProfile = eqIgnoreAsciiCase t passThroughProfile := by
    rw [eqIgnoreAsciiCase_comm s, eqIgnoreAsciiCase_comm t]
    exact eqIgnoreAsciiCase_congr h passThroughProfile
  unfold resolveProfile
  rw [hpass, byName_congr u h]

theorem clientPoolKey_congr (u : WreqUtil Profile Platform Emulation) {s t : Str}
    (h : eqIgnoreAsciiCase s t = true) : clientPoolKey u s = clientPoolKey u t := by
  unfold clientPoolKey
  rw [resolveProfile_congr u h]

/-- **The pools are coherent.**  In every interleaving a filed client stays, all calls of one
pool key that return a client return that client, spellings of one name share a pool key, and a
call that fails leaves the cache as it was. -/
theorem pool_coherent (u : WreqUtil Profile Platform Emulation)
    {events : List (BuildCache.Event Str Str (Except Str Nat))}
    {s : BuildCache.State Str Str (WreqClient Emulation) Str}
    (hrun : (getWreqClient u).machine.run .init events = some s) :
    (∀ later t, (getWreqClient u).machine.run s later = some t → ∀ key client,
      s.cache.lookup key = some client → t.cache.lookup key = some client) ∧
    (∀ call ∈ s.calls, ∀ other ∈ s.calls, ∀ client client',
      call.phase = .done (.ok client) → other.phase = .done (.ok client') →
        clientPoolKey u call.request = clientPoolKey u other.request → client = client') ∧
    (∀ name name', eqIgnoreAsciiCase name name' = true →
      clientPoolKey u name = clientPoolKey u name') ∧
    ∀ event t, (getWreqClient u).machine.step s event = some t →
      ∀ (i : Nat) (call call' : BuildCache.Call Str (WreqClient Emulation) Str) (error : Str),
        s.calls[i]? = some call → t.calls[i]? = some call' →
          (∀ e, call.phase ≠ .done (.error e)) → call'.phase = .done (.error error) →
            t.cache = s.cache := by
  refine ⟨fun later t hlater => BuildCache.extends_of_run hlater, ?_, ?_, ?_⟩
  · intro call hcall other hother client client' hclient hclient' hkey
    exact BuildCache.eq_of_returned hrun hcall hother hclient hclient' hkey
  · intro name name' h
    exact clientPoolKey_congr u h
  · intro event t hstep i call call' error hcall hcall' hgoes hfails
    exact BuildCache.cache_of_failed hstep hcall hcall' hgoes hfails

/-! ### A catalogue to run on

A few of the declared profiles, under the names `wreq-util` gives them.
-/

inductive SampleProfile where
  | chrome120 | chrome149 | firefox128 | firefox151 | safari17_5 | safariIos17_2 | edge122
deriving DecidableEq, Repr

inductive SamplePlatform where
  | ios | android
deriving DecidableEq, Repr

def sampleUtil : WreqUtil SampleProfile SamplePlatform (SampleProfile × Option SamplePlatform) where
  profileName
    | .chrome120 => "chrome_120"
    | .chrome149 => "chrome_149"
    | .firefox128 => "firefox_128"
    | .firefox151 => "firefox_151"
    | .safari17_5 => "safari_17.5"
    | .safariIos17_2 => "safari_ios_17.2"
    | .edge122 => "edge_122"
  platformName
    | .ios => "ios"
    | .android => "android"
  variants := [.chrome120, .chrome149, .firefox128, .firefox151, .safari17_5, .safariIos17_2,
    .edge122]
  emulate profile platform := (profile, platform)
  chrome149 := .chrome149
  firefox151 := .firefox151
  firefox128 := .firefox128
  safari17_5 := .safari17_5
  edge122 := .edge122
  safariIos17_2 := .safariIos17_2
  ios := .ios
  android := .android

theorem sampleUtil_lawful : sampleUtil.Lawful where
  profileName_injective := by
    intro p q h
    cases p <;> cases q <;> first | rfl | exact absurd h (by decide)
  platformName_injective := by
    intro p q h
    cases p <;> cases q <;> first | rfl | exact absurd h (by decide)
  at_not_mem := by intro p; cases p <;> decide
  ne_default := by intro p; cases p <;> decide
  ne_passThrough := by intro p; cases p <;> decide
  ne_fallback := by intro p; cases p <;> decide

/-- Two spellings of one profile build at once, and a third name asks for the same browser
on another platform. -/
def raceEvents : List (BuildCache.Event Str Str (Except Str Nat)) :=
  [.call "Chrome_149", .call "chrome_149_stable", .call "android_chrome",
   .read 0 (.ok ()), .read 1 (.ok ()), .build 1 (.ok 7), .build 0 (.ok 8),
   .insert 1 (.ok ()), .insert 0 (.ok ()), .read 2 (.ok ()), .build 2 (.ok 9),
   .insert 2 (.ok ())]

/-- The identity of the client a call returned. -/
def returnedId (call : BuildCache.Call Str (WreqClient Emulation) Str) : Option Nat :=
  match call.phase with
  | .done (.ok client) => some client.id
  | _ => none

/-- The two spellings return one client, the third name another, and two are filed. -/
theorem run_raceEvents :
    ∃ s, (getWreqClient sampleUtil).machine.run .init raceEvents = some s ∧
      s.calls.map returnedId = [some 7, some 7, some 9] ∧
      s.cache.keys = (["chrome_149@android", "chrome_149"] : List Str) := by
  have houtcome : ((getWreqClient sampleUtil).machine.run .init raceEvents).map
      (fun s => (s.calls.map returnedId, s.cache.keys))
      = some ([some 7, some 7, some 9], (["chrome_149@android", "chrome_149"] : List Str)) := by
    decide
  obtain ⟨s, hs, hpair⟩ := Option.map_eq_some_iff.mp houtcome
  rw [Prod.mk.injEq] at hpair
  exact ⟨s, hs, hpair⟩

/-- The two spellings are served by the client that was filed first, the third name by its
own, and each of them has the emulation that was asked for. -/
theorem profile_isolation_race :
    ∃ s, (getWreqClient sampleUtil).machine.run .init raceEvents = some s ∧
      s.calls.map returnedId = [some 7, some 7, some 9] ∧
      ∀ call ∈ s.calls, ∀ client, call.phase = .done (.ok client) →
        client.emulation = namedEmulation sampleUtil call.request := by
  obtain ⟨s, hs, hids, -⟩ := run_raceEvents
  exact ⟨s, hs, hids, (profile_isolation sampleUtil_lawful hs).1⟩

/-- The same race files two clients, which stay filed whatever happens next. -/
theorem pool_coherent_race :
    ∃ s, (getWreqClient sampleUtil).machine.run .init raceEvents = some s ∧
      s.cache.keys = (["chrome_149@android", "chrome_149"] : List Str) ∧
      ∀ later t, (getWreqClient sampleUtil).machine.run s later = some t →
        BuildCache.Extends s.cache t.cache := by
  obtain ⟨s, hs, -, hfiled⟩ := run_raceEvents
  exact ⟨s, hs, hfiled, fun later t hlater => (pool_coherent sampleUtil hs).1 later t hlater⟩

end TlsPlus
