/-
The two readings of a request's metadata.

The plain path reads each metadata header strictly: at most one value, which must
be text, and for the timeout a number.  The WebSocket path reads leniently: the
first value if it is text, else a default; what it adds is that the deadline must
be representable.  Where the target is missing both refuse.  Everywhere else they
agree exactly when the strict conditions and the deadline's stand or fall
together, which `read_alike_iff` proves.

The profiles are compared by the pool they resolve to, since an empty profile is
`pass-through` to one path and an unknown name to the other.
-/
import TlsPlus.Proofs.Proxy.Service
import TlsPlus.Proofs.Transport

namespace TlsPlus

open Text

variable {Client Profile Platform Emulation : Type} {w : World Client}
  {u : WreqUtil Profile Platform Emulation}

/-! ### Readings -/

/-- What a request is forwarded by: its target, the pool its profile resolves to and the
timeout that is applied. -/
structure Reading where
  target : Str
  poolKey : Str
  timeoutSecs : Nat
deriving DecidableEq

def plainReading (u : WreqUtil Profile Platform Emulation) (headers : HeaderMap) :
    Except Response Reading :=
  match plainMetadata headers with
  | .error refusal => .error refusal
  | .ok metadata =>
    .ok ⟨metadata.target, clientPoolKey u metadata.profile, max metadata.timeoutSecs 1⟩

def websocketReading (u : WreqUtil Profile Platform Emulation) (w : World Client)
    (headers : HeaderMap) : Except Response Reading :=
  match websocketMetadata headers with
  | .error refusal => .error refusal
  | .ok metadata =>
    if w.deadlineInRange metadata.timeoutSecs then
      .ok ⟨metadata.target, clientPoolKey u metadata.profile, metadata.timeoutSecs⟩
    else .error (errorResponse .badRequest "X-Tlsplus-Timeout exceeds the supported range")

/-- Both paths accept with one reading, or both answer 400. -/
def ReadAlike (u : WreqUtil Profile Platform Emulation) (w : World Client)
    (headers : HeaderMap) : Prop :=
  (∃ reading, plainReading u headers = .ok reading ∧ websocketReading u w headers = .ok reading) ∨
  ∃ refusal refusal', plainReading u headers = .error refusal ∧
    websocketReading u w headers = .error refusal' ∧
    refusal.status = .badRequest ∧ refusal'.status = .badRequest

theorem plainReading_error {h : HeaderMap} {refusal : Response}
    (he : plainReading u h = .error refusal) : refusal.status = .badRequest := by
  unfold plainReading at he
  cases hm : plainMetadata h with
  | ok metadata => simp [hm] at he
  | error r =>
      obtain ⟨message, hr⟩ := plainMetadata_error hm
      rw [hm] at he
      rw [← Except.error.inj he, hr]
      rfl

theorem websocketReading_error {h : HeaderMap} {refusal : Response}
    (he : websocketReading u w h = .error refusal) : refusal.status = .badRequest := by
  unfold websocketReading at he
  cases hm : websocketMetadata h with
  | ok metadata =>
      simp only [hm] at he
      split at he
      · exact absurd he (by simp)
      · rw [← Except.error.inj he]
        rfl
  | error r =>
      obtain ⟨message, hr⟩ := websocketMetadata_error hm
      rw [hm] at he
      rw [← Except.error.inj he, hr]
      rfl

/-- The plain path refuses what it cannot read. -/
theorem forwardPlain_of_plainReading_error {request : Request} {declared : Option Version}
    {refusal : Response} (he : plainReading u request.headers = .error refusal) :
    forwardPlain w request declared = .refused refusal := by
  unfold plainReading at he
  unfold forwardPlain
  cases hm : plainMetadata request.headers with
  | ok metadata => simp [hm] at he
  | error r =>
      rw [hm] at he
      rw [← Except.error.inj he]

/-- So does the WebSocket path, if only because of its deadline. -/
theorem websocketProxy_of_websocketReading_error {request : Request}
    {transport : WebSocketTransport} {refusal : Response}
    (he : websocketReading u w request.headers = .error refusal) :
    ∃ answer, websocketProxy w request transport = .refused answer := by
  unfold websocketReading at he
  unfold websocketProxy
  cases hm : websocketMetadata request.headers with
  | error r => exact ⟨r, rfl⟩
  | ok metadata =>
      simp only [hm] at he
      have hdeadline : w.deadlineInRange metadata.timeoutSecs = false := by
        by_contra hin
        rw [Bool.not_eq_false] at hin
        rw [if_pos hin] at he
        exact absurd he (by simp)
      cases hu : normalizeTarget w.parseUri metadata.target with
      | error e => exact ⟨errorResponse .badRequest e, by simp only [hu]⟩
      | ok uri =>
          cases hc : w.getWreqClient metadata.profile with
          | error e => exact ⟨errorResponse .badGateway e, by simp only [hu, hc]⟩
          | ok client => exact ⟨_, by simp only [hu, hc, hdeadline]; rfl⟩

/-! ### The strict conditions -/

/-- The header has one value, and it is this text. -/
def SingleText (headers : HeaderMap) (name : HeaderName) (text : Str) : Prop :=
  ∃ value, headers.getAll name = [value] ∧ value.toStr = some text

/-- Metadata with nothing repeated and nothing unreadable in it. -/
structure StrictMetadata (headers : HeaderMap) : Prop where
  target : ∃ text, SingleText headers .xTlsplusTarget text
  profile : headers.getAll .xTlsplusProfile ≠ [] →
    ∃ text, SingleText headers .xTlsplusProfile text
  timeout : headers.getAll .xTlsplusTimeout ≠ [] →
    ∃ text secs, SingleText headers .xTlsplusTimeout text ∧
      parseUnsigned UInt64.size text = some secs

/-- The first value of a header, if there is one and it is text. -/
def firstText (headers : HeaderMap) (name : HeaderName) : Option Str :=
  (headers.get name).bind HeaderValue.toStr

/-- The first timeout value if it is a number, at least 1, else 30. -/
def firstTimeoutSecs (headers : HeaderMap) : Nat :=
  ((firstText headers .xTlsplusTimeout).bind (parseUnsigned UInt64.size)).elim 30 (max · 1)

theorem firstText_of_single {h : HeaderMap} {name : HeaderName} {text : Str}
    (hs : SingleText h name text) : firstText h name = some text := by
  obtain ⟨value, hall, htext⟩ := hs
  simp [firstText, Multimap.get, hall, htext]

theorem firstText_of_absent {h : HeaderMap} {name : HeaderName} (hnil : h.getAll name = []) :
    firstText h name = none := by
  simp [firstText, Multimap.get, hnil]

/-! ### The plain reader accepts exactly the strict metadata -/

/-- The three answers of `internal_header`. -/
theorem internalHeader_cases (h : HeaderMap) (name : HeaderName) :
    (h.getAll name = [] ∧ internalHeader h name = .ok none) ∨
    (∃ text, SingleText h name text ∧ internalHeader h name = .ok (some text)) ∨
    (h.getAll name ≠ [] ∧ (∀ text, ¬SingleText h name text) ∧
      ∃ message, internalHeader h name = .error message) := by
  unfold internalHeader SingleText
  match h.getAll name with
  | [] => exact Or.inl ⟨rfl, rfl⟩
  | [value] =>
      cases htext : value.toStr with
      | some text => exact Or.inr (Or.inl ⟨text, ⟨value, rfl, htext⟩, by simp only [htext]⟩)
      | none =>
          refine Or.inr (Or.inr ⟨by simp, ?_, _, by simp only [htext]; rfl⟩)
          rintro text ⟨other, hother, hsome⟩
          rw [List.singleton_inj] at hother
          rw [← hother, htext] at hsome
          exact absurd hsome (by simp)
  | _ :: _ :: _ => exact Or.inr (Or.inr ⟨by simp, by simp, _, rfl⟩)

/-- What the plain reader gets from strict metadata. -/
structure PlainFields (headers : HeaderMap) (metadata : Metadata) : Prop where
  target : SingleText headers .xTlsplusTarget metadata.target
  target_ne : metadata.target ≠ []
  profile : metadata.profile = (match firstText headers .xTlsplusProfile with
    | some text => if text ≠ [] then text else "pass-through"
    | none => "pass-through")
  timeout : max metadata.timeoutSecs 1 = firstTimeoutSecs headers

theorem plainTarget_ok_iff {h : HeaderMap} {target : Str} :
    plainTarget h = .ok target ↔ SingleText h .xTlsplusTarget target ∧ target ≠ [] := by
  unfold plainTarget
  rcases internalHeader_cases h .xTlsplusTarget with ⟨hnil, hread⟩ | ⟨text, hs, hread⟩ |
    ⟨-, hnone, message, hread⟩
  · rw [hread]
    simp [SingleText, hnil]
  · rw [hread]
    have hunique : ∀ other, SingleText h .xTlsplusTarget other → other = text := by
      intro other ho
      have hfirst := firstText_of_single ho
      rw [firstText_of_single hs, Option.some.injEq] at hfirst
      exact hfirst.symm
    by_cases hne : text ≠ []
    · simp only [if_pos hne, Except.ok.injEq]
      exact ⟨fun he => he ▸ ⟨hs, hne⟩, fun ht => (hunique _ ht.1).symm⟩
    · simp only [if_neg hne]
      refine ⟨fun he => absurd he (by simp), fun ht => ?_⟩
      exact absurd (hunique _ ht.1 ▸ ht.2) hne
  · rw [hread]
    exact ⟨fun he => absurd he (by simp), fun ht => absurd ht.1 (hnone _)⟩

theorem plainProfile_cases (h : HeaderMap) :
    ((h.getAll .xTlsplusProfile ≠ [] → ∃ text, SingleText h .xTlsplusProfile text) ∧
      plainProfile h = .ok (match firstText h .xTlsplusProfile with
        | some text => if text ≠ [] then text else "pass-through"
        | none => "pass-through")) ∨
    (¬(h.getAll .xTlsplusProfile ≠ [] → ∃ text, SingleText h .xTlsplusProfile text) ∧
      ∃ refusal, plainProfile h = .error refusal) := by
  unfold plainProfile
  rcases internalHeader_cases h .xTlsplusProfile with ⟨hnil, hread⟩ | ⟨text, hs, hread⟩ |
    ⟨hne, hnone, message, hread⟩
  · refine Or.inl ⟨fun hne => absurd hnil hne, ?_⟩
    rw [hread, firstText_of_absent hnil]
  · refine Or.inl ⟨fun _ => ⟨text, hs⟩, ?_⟩
    rw [hread, firstText_of_single hs]
  · refine Or.inr ⟨fun hall => ?_, _, by rw [hread]⟩
    obtain ⟨text, hs⟩ := hall hne
    exact hnone text hs

theorem plainTimeoutSecs_cases (h : HeaderMap) :
    ((h.getAll .xTlsplusTimeout ≠ [] → ∃ text secs, SingleText h .xTlsplusTimeout text ∧
        parseUnsigned UInt64.size text = some secs) ∧
      ∃ secs, plainTimeoutSecs h = .ok secs ∧ max secs 1 = firstTimeoutSecs h) ∨
    (¬(h.getAll .xTlsplusTimeout ≠ [] → ∃ text secs, SingleText h .xTlsplusTimeout text ∧
        parseUnsigned UInt64.size text = some secs) ∧
      ∃ refusal, plainTimeoutSecs h = .error refusal) := by
  unfold plainTimeoutSecs firstTimeoutSecs
  rcases internalHeader_cases h .xTlsplusTimeout with ⟨hnil, hread⟩ | ⟨text, hs, hread⟩ |
    ⟨hne, hnone, message, hread⟩
  · refine Or.inl ⟨fun hne => absurd hnil hne, 30, by rw [hread], ?_⟩
    rw [firstText_of_absent hnil]
    rfl
  · rw [hread, firstText_of_single hs]
    cases hparse : parseUnsigned UInt64.size text with
    | some secs => exact Or.inl ⟨fun _ => ⟨text, secs, hs, hparse⟩, secs, by simp only [hparse],
        by simp only [Option.bind_some, hparse, Option.elim_some]⟩
    | none =>
        refine Or.inr ⟨fun hall => ?_, _, by simp only [hparse]; rfl⟩
        have hne : h.getAll .xTlsplusTimeout ≠ [] := by
          obtain ⟨value, hall, -⟩ := hs
          simp [hall]
        obtain ⟨other, secs, ho, hsecs⟩ := hall hne
        have hfirst := firstText_of_single ho
        rw [firstText_of_single hs, Option.some.injEq] at hfirst
        rw [← hfirst, hparse] at hsecs
        exact absurd hsecs (by simp)
  · refine Or.inr ⟨fun hall => ?_, _, by rw [hread]⟩
    obtain ⟨text, secs, hs, -⟩ := hall hne
    exact hnone text hs

/-- **The plain reader accepts strict metadata with a target in it, and nothing else.** -/
theorem plainMetadata_cases (h : HeaderMap) :
    (StrictMetadata h ∧ ∃ metadata, plainMetadata h = .ok metadata ∧ PlainFields h metadata) ∨
    ((StrictMetadata h → firstText h .xTlsplusTarget = some []) ∧
      ∃ refusal, plainMetadata h = .error refusal) := by
  unfold plainMetadata
  cases ht : plainTarget h with
  | error refusal =>
      refine Or.inr ⟨fun hstrict => ?_, refusal, rfl⟩
      obtain ⟨text, hs⟩ := hstrict.target
      have hempty : text = [] := by
        by_contra hne
        rw [plainTarget_ok_iff.mpr ⟨hs, hne⟩] at ht
        exact absurd ht (by simp)
      rw [firstText_of_single hs, hempty]
  | ok target =>
      obtain ⟨hs, hne⟩ := plainTarget_ok_iff.mp ht
      rcases plainProfile_cases h with ⟨hprofile, hp⟩ | ⟨hnot, refusal, hp⟩
      · rcases plainTimeoutSecs_cases h with ⟨htimeout, secs, ho, hsecs⟩ | ⟨hnot, refusal, ho⟩
        · refine Or.inl ⟨⟨⟨target, hs⟩, hprofile, htimeout⟩, ⟨target, _, secs⟩, ?_,
            hs, hne, rfl, hsecs⟩
          rw [hp, ho]
          rfl
        · refine Or.inr ⟨fun hstrict => absurd hstrict.timeout hnot, refusal, ?_⟩
          rw [hp, ho]
          rfl
      · refine Or.inr ⟨fun hstrict => absurd hstrict.profile hnot, refusal, ?_⟩
        rw [hp]
        rfl

/-! ### The WebSocket reader -/

theorem websocketMetadata_cases (h : HeaderMap) :
    ((firstText h .xTlsplusTarget = none ∨ firstText h .xTlsplusTarget = some []) ∧
      ∃ refusal, websocketMetadata h = .error refusal) ∨
    ∃ target, firstText h .xTlsplusTarget = some target ∧ target ≠ [] ∧
      websocketMetadata h = .ok ⟨target, (firstText h .xTlsplusProfile).getD "pass-through",
        firstTimeoutSecs h⟩ := by
  have hread : websocketMetadata h =
      if (firstText h .xTlsplusTarget).getD [] = [] then
        .error (errorResponse .badRequest "Missing X-Tlsplus-Target header")
      else .ok ⟨(firstText h .xTlsplusTarget).getD [],
        (firstText h .xTlsplusProfile).getD "pass-through", firstTimeoutSecs h⟩ := rfl
  rw [hread]
  cases htarget : firstText h .xTlsplusTarget with
  | none => exact Or.inl ⟨Or.inl rfl, _, rfl⟩
  | some target =>
      by_cases hne : target = []
      · exact Or.inl ⟨Or.inr (by rw [hne]), _, if_pos hne⟩
      · exact Or.inr ⟨target, rfl, hne, if_neg hne⟩

/-! ### Comparison -/

theorem clientPoolKey_passThrough : clientPoolKey u "pass-through" = "default" := by
  have hlabel : eqIgnoreAsciiCase ("pass-through" : Str) passThroughProfile = true :=
    eqIgnoreAsciiCase_refl _
  unfold clientPoolKey resolveProfile
  rw [if_pos hlabel]
  rfl

/-- The empty name is in no catalogue, so it is served from the default pool as well. -/
theorem clientPoolKey_empty (hu : u.Lawful) (hnames : ∀ p, u.profileName p ≠ []) :
    clientPoolKey u [] = "default" := by
  have hlabel : eqIgnoreAsciiCase ([] : Str) passThroughProfile = false := by decide
  have hunknown : byName u [] = none := by
    have htable : ∀ name ∈ (compatibilityAliases u).map TlsProfile.name,
        eqIgnoreAsciiCase name [] = false := by
      have hall : ((compatibilityAliases u).map TlsProfile.name).all
        (fun name => !eqIgnoreAsciiCase name []) = true := rfl
      simpa using hall
    have hdeclared : ∀ p, eqIgnoreAsciiCase (u.profileName p) [] = false := by
      intro p
      rw [Bool.eq_false_iff, ne_eq, eqIgnoreAsciiCase_iff]
      simpa [toAsciiLowercase] using hnames p
    rw [byName_of_not_declared [] hdeclared, List.find?_eq_none]
    intro p hp
    simp [htable p.name (List.mem_map_of_mem hp)]
  obtain ⟨fallback, hfallback, hnone⟩ := byName_fallback hu
  unfold clientPoolKey resolveProfile
  rw [hlabel, hunknown, hfallback]
  simp [TlsProfile.poolKey, hnone]

/-- The profiles the two readers make of one text resolve to one pool. -/
theorem clientPoolKey_profile (hu : u.Lawful) (hnames : ∀ p, u.profileName p ≠ [])
    (profile : Option Str) :
    clientPoolKey u (match profile with
      | some text => if text ≠ [] then text else "pass-through"
      | none => "pass-through") = clientPoolKey u (profile.getD "pass-through") := by
  cases profile with
  | none => rfl
  | some text =>
      by_cases hne : text ≠ []
      · simp only [if_pos hne, Option.getD_some]
      · have hempty : text = [] := not_not.mp hne
        simp only [if_neg hne, Option.getD_some]
        rw [hempty, clientPoolKey_empty hu hnames, clientPoolKey_passThrough]

/-- What the headers say if the first values count. -/
def firstReading (u : WreqUtil Profile Platform Emulation) (headers : HeaderMap) (target : Str) :
    Reading :=
  ⟨target, clientPoolKey u ((firstText headers .xTlsplusProfile).getD "pass-through"),
    firstTimeoutSecs headers⟩

theorem plainReading_cases (hu : u.Lawful) (hnames : ∀ p, u.profileName p ≠ []) (h : HeaderMap) :
    (StrictMetadata h ∧ ∃ target, firstText h .xTlsplusTarget = some target ∧ target ≠ [] ∧
      plainReading u h = .ok (firstReading u h target)) ∨
    ((StrictMetadata h → firstText h .xTlsplusTarget = some []) ∧
      ∃ refusal, plainReading u h = .error refusal) := by
  rcases plainMetadata_cases h with ⟨hstrict, metadata, hread, hfields⟩ | ⟨hnot, refusal, hread⟩
  · refine Or.inl ⟨hstrict, metadata.target, firstText_of_single hfields.target,
      hfields.target_ne, ?_⟩
    simp only [plainReading, firstReading, hread, hfields.timeout]
    rw [hfields.profile, clientPoolKey_profile hu hnames]
  · exact Or.inr ⟨hnot, refusal, by simp only [plainReading, hread]⟩

theorem websocketReading_cases (u : WreqUtil Profile Platform Emulation) (w : World Client)
    (h : HeaderMap) :
    ((firstText h .xTlsplusTarget = none ∨ firstText h .xTlsplusTarget = some []) ∧
      ∃ refusal, websocketReading u w h = .error refusal) ∨
    ∃ target, firstText h .xTlsplusTarget = some target ∧ target ≠ [] ∧
      ((w.deadlineInRange (firstTimeoutSecs h) = true ∧
          websocketReading u w h = .ok (firstReading u h target)) ∨
        (¬w.deadlineInRange (firstTimeoutSecs h) = true ∧
          ∃ refusal, websocketReading u w h = .error refusal)) := by
  rcases websocketMetadata_cases h with ⟨hmissing, refusal, hread⟩ | ⟨target, htarget, hne, hread⟩
  · exact Or.inl ⟨hmissing, refusal, by simp only [websocketReading, hread]⟩
  · refine Or.inr ⟨target, htarget, hne, ?_⟩
    simp only [websocketReading, hread]
    by_cases hin : w.deadlineInRange (firstTimeoutSecs h) = true
    · exact Or.inl ⟨hin, if_pos hin⟩
    · exact Or.inr ⟨hin, _, if_neg hin⟩

theorem readAlike_of_errors {h : HeaderMap}
    (hplain : ∃ refusal, plainReading u h = .error refusal)
    (hwebsocket : ∃ refusal, websocketReading u w h = .error refusal) : ReadAlike u w h := by
  obtain ⟨refusal, hp⟩ := hplain
  obtain ⟨refusal', hw⟩ := hwebsocket
  exact Or.inr ⟨refusal, refusal', hp, hw, plainReading_error hp, websocketReading_error hw⟩

theorem not_alike_of_isOk {h : HeaderMap}
    (hne : (plainReading u h).isOk ≠ (websocketReading u w h).isOk) : ¬ReadAlike u w h := by
  rintro (⟨reading, hplain, hwebsocket⟩ | ⟨refusal, refusal', hplain, hwebsocket, -⟩)
  · exact hne (by rw [hplain, hwebsocket])
  · exact hne (by rw [hplain, hwebsocket]; rfl)

/-- **The two paths read metadata alike exactly when** no first target can be read, or the
strict conditions hold if and only if the deadline is representable. -/
theorem read_alike_iff (hu : u.Lawful) (hnames : ∀ p, u.profileName p ≠ []) (w : World Client)
    (h : HeaderMap) :
    ReadAlike u w h ↔
      (firstText h .xTlsplusTarget = none ∨ firstText h .xTlsplusTarget = some []) ∨
      (StrictMetadata h ↔ w.deadlineInRange (firstTimeoutSecs h) = true) := by
  rcases websocketReading_cases u w h with ⟨hmissing, hwebsocket⟩ |
    ⟨target, htarget, hne, hdeadline⟩
  · -- no target: the strict reader cannot find one either
    have hplain : ∃ refusal, plainReading u h = .error refusal := by
      rcases plainReading_cases hu hnames h with ⟨-, target, htarget, hne, -⟩ | ⟨-, hplain⟩
      · rw [htarget] at hmissing
        simp [hne] at hmissing
      · exact hplain
    exact ⟨fun _ => Or.inl hmissing, fun _ => readAlike_of_errors hplain hwebsocket⟩
  · have hpresent : ¬(firstText h .xTlsplusTarget = none ∨
        firstText h .xTlsplusTarget = some []) := by
      rw [htarget]
      simpa using hne
    rw [or_iff_right hpresent]
    rcases plainReading_cases hu hnames h with ⟨hstrict, target', htarget', -, hplain⟩ |
      ⟨hnot, hplain⟩
    · have hsame : target' = target := Option.some.inj (htarget'.symm.trans htarget)
      rw [iff_true_left hstrict]
      rcases hdeadline with ⟨hin, hwebsocket⟩ | ⟨hout, refusal, hwebsocket⟩
      · exact iff_of_true (Or.inl ⟨_, hplain, hsame ▸ hwebsocket⟩) hin
      · refine iff_of_false (not_alike_of_isOk ?_) hout
        rw [hplain, hwebsocket]
        simp [Except.isOk, Except.toBool]
    · have hloose : ¬StrictMetadata h := fun hstrict => hpresent (Or.inr (hnot hstrict))
      rw [iff_false_left hloose]
      rcases hdeadline with ⟨hin, hwebsocket⟩ | ⟨hout, hwebsocket⟩
      · obtain ⟨refusal, hrefused⟩ := hplain
        refine iff_of_false (not_alike_of_isOk ?_) (not_not.mpr hin)
        rw [hrefused, hwebsocket]
        simp [Except.isOk, Except.toBool]
      · exact iff_of_true (readAlike_of_errors hplain hwebsocket) hout

/-- A request with one target, an empty profile and a timeout of zero is read alike. -/
theorem read_alike_zero_timeout :
    ReadAlike sampleUtil (sampleWorld .timeout) (sampleRequest .get .http11
      [(.xTlsplusProfile, .fromStatic ""), (.xTlsplusTimeout, .fromStatic "0")]).headers := by
  refine (read_alike_iff sampleUtil_lawful (by intro p; cases p <;> decide) _ _).mpr
    (Or.inr ?_)
  have htarget : SingleText (sampleRequest .get .http11
      [(.xTlsplusProfile, .fromStatic ""), (.xTlsplusTimeout, .fromStatic "0")]).headers
      .xTlsplusTarget "http://up.example/" :=
    ⟨.fromStatic "http://up.example/", by decide, by decide⟩
  refine iff_of_true ⟨⟨_, htarget⟩, fun _ => ⟨[], ?_⟩, fun _ => ⟨"0", 0, ?_, by decide⟩⟩
    (by decide)
  · exact ⟨.fromStatic "", by decide, by decide⟩
  · exact ⟨.fromStatic "0", by decide, by decide⟩

/-- A second target, a timeout that is not a number, and a timeout beyond the range of deadlines
are each accepted by one path only. -/
theorem loose_metadata_not_alike :
    ¬ReadAlike sampleUtil (sampleWorld .timeout) (sampleRequest .get .http11
      [(.xTlsplusTarget, .fromStatic "https://up.example/")]).headers ∧
    ¬ReadAlike sampleUtil (sampleWorld .timeout) (sampleRequest .get .http11
      [(.xTlsplusTimeout, .fromStatic "soon")]).headers ∧
    ¬ReadAlike sampleUtil (sampleWorld .timeout) (sampleRequest .get .http11
      [(.xTlsplusTimeout, .fromStatic "9223372036854775808")]).headers :=
  ⟨not_alike_of_isOk (by decide), not_alike_of_isOk (by decide), not_alike_of_isOk (by decide)⟩

end TlsPlus
