/-
The direct client and the proxy, asked for the same name.

`for_profile` trims the name and `get_wreq_client` does not, and nothing else
separates the two: what the direct client resolves is what the proxy resolves for
the trimmed name (`resolveProfile_forProfile`).  No profile has white space at
either end of its name, so the proxy does not know a name that has, and serves it
by the fallback profile.  That is the right entry only if the trimmed name is a
name of the fallback itself.
-/
import TlsPlus.HttpClient
import TlsPlus.Proofs.Transport

namespace TlsPlus

open Text

variable {Profile Platform Emulation : Type} {u : WreqUtil Profile Platform Emulation}
  {getWreqClient : Str → Except Str (WreqClient Emulation)} {name : Str}
  {client : HttpClient Emulation}

/-- What is relied on of the declared names here: no white space at either end. -/
def TrimmedNames (u : WreqUtil Profile Platform Emulation) : Prop :=
  ∀ p, trim (u.profileName p) = u.profileName p

/-! ### What a direct client is a client of -/

/-- A canonical name is a spelling of the trimmed name, which is known. -/
theorem canonicalProfile_eq_ok {canonical : Str} (h : canonicalProfile u name = .ok canonical) :
    eqIgnoreAsciiCase canonical (trim name) = true ∧
      (eqIgnoreAsciiCase (trim name) passThroughProfile = true ∨
        (byName u (trim name)).isSome = true) := by
  unfold canonicalProfile at h
  simp only at h
  by_cases hpass : eqIgnoreAsciiCase (trim name) passThroughProfile = true
  · rw [if_pos hpass] at h
    rw [← Except.ok.inj h, eqIgnoreAsciiCase_comm]
    exact ⟨hpass, Or.inl hpass⟩
  · rw [if_neg hpass] at h
    cases hfind : byName u (trim name) with
    | none =>
        rw [hfind] at h
        exact absurd h (by simp)
    | some p =>
        rw [hfind] at h
        rw [← Except.ok.inj h]
        exact ⟨by simpa using List.find?_some hfind, Or.inr rfl⟩

theorem forProfile_eq_ok (h : HttpClient.forProfile u getWreqClient name = .ok client) :
    canonicalProfile u name = .ok client.profile ∧
      getWreqClient client.profile = .ok client.inner := by
  unfold HttpClient.forProfile at h
  cases hcanonical : canonicalProfile u name with
  | error e =>
      rw [hcanonical] at h
      exact absurd h (by simp)
  | ok canonical =>
      have hsame : (if canonical = passThroughProfile then getPassthroughClient getWreqClient
          else getWreqClient canonical) = getWreqClient canonical := by
        by_cases hpass : canonical = passThroughProfile
        · rw [if_pos hpass, hpass]
          rfl
        · rw [if_neg hpass]
      rw [hcanonical] at h
      simp only [hsame] at h
      cases hinner : getWreqClient canonical with
      | error message =>
          rw [hinner] at h
          exact absurd h (by simp)
      | ok inner =>
          rw [hinner] at h
          rw [← Except.ok.inj h]
          exact ⟨rfl, hinner⟩

/-- **The direct client resolves the trimmed name.** -/
theorem resolveProfile_forProfile (h : HttpClient.forProfile u getWreqClient name = .ok client) :
    resolveProfile u client.profile = resolveProfile u (trim name) :=
  resolveProfile_congr u (canonicalProfile_eq_ok (forProfile_eq_ok h).1).1

/-! ### Names with white space around them -/

/-- No profile of the catalogue has white space at either end of its name. -/
theorem trim_name_of_mem (hnames : TrimmedNames u) {p : TlsProfile Profile Platform}
    (h : p ∈ profiles u) : trim p.name = p.name := by
  have halias : ∀ e ∈ aliasTable, trim e.1 = e.1 := by decide
  unfold profiles at h
  rcases List.mem_append.mp h with hdeclared | htable
  · obtain ⟨profile, -, rfl⟩ := List.mem_map.mp hdeclared
    exact hnames profile
  · exact halias _ (mem_aliasTable htable)

/-- The proxy serves a name with white space around it by the fallback profile. -/
theorem resolveProfile_of_untrimmed (hnames : TrimmedNames u) (h : trim name ≠ name) :
    resolveProfile u name = byName u fallbackProfile := by
  have hunknown : byName u name = none := by
    refine List.find?_eq_none.mpr fun p hp hname => h ?_
    exact trim_eq_self_of_eqIgnoreAsciiCase (trim_name_of_mem hnames hp) hname
  have hpass : ¬eqIgnoreAsciiCase name passThroughProfile = true := by
    intro hpass
    rw [eqIgnoreAsciiCase_comm] at hpass
    exact h (trim_eq_self_of_eqIgnoreAsciiCase (by decide) hpass)
  unfold resolveProfile
  rw [if_neg hpass, hunknown, Option.none_or]

theorem resolveProfile_fallback {name : Str} (h : eqIgnoreAsciiCase name fallbackProfile = true) :
    resolveProfile u name = byName u fallbackProfile := by
  rw [resolveProfile_congr u h]
  unfold resolveProfile
  rw [if_neg (by decide), Option.or_self]

/-- Only a name of the fallback profile is resolved to it, among the names that are known. -/
theorem eq_fallback_of_resolveProfile (hu : u.Lawful)
    (hknown : eqIgnoreAsciiCase name passThroughProfile = true ∨ (byName u name).isSome = true)
    (h : resolveProfile u name = byName u fallbackProfile) :
    eqIgnoreAsciiCase name fallbackProfile = true := by
  obtain ⟨fallback, hfallback, -⟩ := byName_fallback hu
  unfold resolveProfile at h
  rw [hfallback] at h
  by_cases hpass : eqIgnoreAsciiCase name passThroughProfile = true
  · rw [if_pos hpass] at h
    exact absurd h (by simp)
  · rw [if_neg hpass] at h
    obtain ⟨p, hp⟩ := Option.isSome_iff_exists.mp (hknown.resolve_left hpass)
    rw [hp, Option.some_or, Option.some.injEq] at h
    have hname : eqIgnoreAsciiCase p.name name = true := by simpa using List.find?_some hp
    have hfound : eqIgnoreAsciiCase fallback.name fallbackProfile = true := by
      simpa using List.find?_some hfallback
    rw [← eqIgnoreAsciiCase_congr hfound, eqIgnoreAsciiCase_comm, ← h]
    exact hname

/-! ### Asking both for one name -/

/-- The proxy, asked for `name`, comes to the catalogue entry, the pool and the fingerprint of
the direct client. -/
structure ServedAlike (u : WreqUtil Profile Platform Emulation) (client : HttpClient Emulation)
    (name : Str) : Prop where
  entry : resolveProfile u name = resolveProfile u client.profile
  pool : clientPoolKey u name = clientPoolKey u client.profile
  fingerprint : namedEmulation u name = namedEmulation u client.profile

theorem servedAlike_iff_entry (hu : u.Lawful) :
    ServedAlike u client name ↔ resolveProfile u name = resolveProfile u client.profile := by
  refine ⟨ServedAlike.entry, fun h => ⟨h, ?_, ?_⟩⟩
  · unfold clientPoolKey
    rw [h]
  · rw [namedEmulation_eq hu, namedEmulation_eq hu, h]

/-- **Both resolve a name alike exactly if it is trimmed, or a name of the fallback profile.** -/
theorem served_alike_iff (hu : u.Lawful) (hnames : TrimmedNames u)
    (h : HttpClient.forProfile u getWreqClient name = .ok client) :
    ServedAlike u client name ↔
      trim name = name ∨ eqIgnoreAsciiCase (trim name) "rustls_default" = true := by
  rw [servedAlike_iff_entry hu, resolveProfile_forProfile h]
  by_cases htrim : trim name = name
  · rw [htrim]
    exact ⟨fun _ => Or.inl rfl, fun _ => rfl⟩
  · rw [resolveProfile_of_untrimmed hnames htrim]
    constructor
    · intro hsame
      have hknown := (canonicalProfile_eq_ok (forProfile_eq_ok h).1).2
      exact Or.inr (eq_fallback_of_resolveProfile hu hknown hsame.symm)
    · intro hcond
      exact (resolveProfile_fallback (hcond.resolve_left htrim)).symm

/-! ### One name with and without a space -/

theorem sampleUtil_trimmedNames : TrimmedNames sampleUtil := by
  intro p
  cases p <;> decide

/-- A pool that builds a client at every call. -/
def samplePool (name : Str) : Except Str (WreqClient (SampleProfile × Option SamplePlatform)) :=
  buildWreqClient sampleUtil (canonicalName sampleUtil name) (.ok 1)

theorem served_alike_iff_fallback :
    ∃ client, HttpClient.forProfile sampleUtil samplePool " Rustls_Default " = .ok client ∧
      ServedAlike sampleUtil client " Rustls_Default " := by
  have hok : HttpClient.forProfile sampleUtil samplePool " Rustls_Default "
      = .ok ⟨"rustls_default", ⟨1, none, true, 10, 90, 32, false, false⟩⟩ := by decide
  exact ⟨_, hok,
    (served_alike_iff sampleUtil_lawful sampleUtil_trimmedNames hok).mpr (Or.inr (by decide))⟩

/-- The direct client of `" chrome_149"` has Chrome's handshake; the proxy, given the same name,
comes to the fallback profile, which has none. -/
theorem spaced_name_not_alike :
    ∃ client, HttpClient.forProfile sampleUtil samplePool " chrome_149" = .ok client ∧
      client.inner.emulation = some (.chrome149, none) ∧
      namedEmulation sampleUtil " chrome_149" = none ∧
      ¬ServedAlike sampleUtil client " chrome_149" := by
  refine ⟨⟨"chrome_149", _⟩, rfl, by decide, by decide, fun hsame => ?_⟩
  exact absurd hsame.entry (by decide)

end TlsPlus
