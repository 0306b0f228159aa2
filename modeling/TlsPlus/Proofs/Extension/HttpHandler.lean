/-
The handler and the proxy agree on the metadata.

The handler writes the four metadata headers under names in one spelling, the
proxy reads them under names in lower case, and a page that Burp sends for may
have set them before.  What makes the two agree is that the handler touches every
one of them last: it replaces three and, for the fourth, replaces or removes.

Of Montoya it is relied on that this is what `withHeader` and `withRemovedHeader`
do, names being compared ignoring case; of the way to the proxy, that texts
without control characters or outer white space arrive as they were sent.
-/
import TlsPlus.Extension.HttpHandler
import TlsPlus.Proofs.Proxy.Headers
import TlsPlus.Proofs.Proxy.Metadata

namespace TlsPlus

open Text

variable {Message : Type} {mo : Montoya Message} {k : Kotlin} {settings : Preferences}
  {endpoint : Option Str} {m m' : Message} {headers : HeaderMap}

/-! ### What is relied on -/

/-- The values of a message's headers of this name, ignoring case. -/
def Montoya.values (mo : Montoya Message) (m : Message) (name : Str) : List Str :=
  ((mo.headers m).filter fun field => eqIgnoreAsciiCase field.1 name).map Prod.snd

/-- `withHeader` leaves one header of the name, `withRemovedHeader` none, and headers of other
names are left alone. -/
structure Montoya.Lawful (mo : Montoya Message) : Prop where
  withHeader : ∀ m name value other, mo.values (mo.withHeader m name value) other
    = if eqIgnoreAsciiCase name other then [value] else mo.values m other
  withRemovedHeader : ∀ m name other, mo.values (mo.withRemovedHeader m name) other
    = if eqIgnoreAsciiCase name other then [] else mo.values m other

/-- A tab, or a visible ASCII character. -/
def isFieldChar (c : Char) : Bool := c.toNat = 9 || (32 ≤ c.toNat && c.toNat < 127)

/-- Visible text without white space around it. -/
def FieldText (s : Str) : Prop := s.all isFieldChar = true ∧ trim s = s

/-- The metadata the proxy is handed when Burp sends the message: for each of its headers whose
values are all visible text without white space around it, these values. -/
def Arrives (mo : Montoya Message) (m : Message) (headers : HeaderMap) : Prop :=
  ∀ name : HeaderName, ("x-tlsplus-" : Str).isPrefixOf name.text = true →
    (∀ value ∈ mo.values m name.text, FieldText value) →
      (headers.getAll name).map HeaderValue.toStr = (mo.values m name.text).map some

/-! ### The redirected request -/

theorem redirected_eq_some (h : redirected k mo settings endpoint m = some m') :
    ∃ service, m' = mo.withHeader (mo.withHeader (mo.withHeader (withVersionMarker mo service m)
      "X-Tlsplus-Target" (buildTargetUrl (mo.url m))) "X-Tlsplus-Profile" settings.profileName)
        "X-Tlsplus-Timeout" "30" := by
  unfold redirected at h
  by_cases hpass : settings.passThroughOnly = true
  · rw [if_pos hpass] at h
    exact absurd h (by simp)
  · rw [if_neg hpass] at h
    split at h
    · exact absurd h (by simp)
    · split at h
      · exact absurd h (by simp)
      · rename_i proxyHost proxyPort _
        simp only at h
        split at h
        · exact absurd h (by simp)
        · exact ⟨⟨proxyHost, proxyPort, false⟩, (Option.some.inj h).symm⟩

theorem values_withVersionMarker (hmo : mo.Lawful) (service : HttpService) :
    mo.values (withVersionMarker mo service m) "x-tlsplus-http-version"
      = if eqIgnoreAsciiCase (mo.httpVersion m) "HTTP/2" then [("HTTP/2" : Str)] else [] := by
  unfold withVersionMarker
  by_cases hversion : eqIgnoreAsciiCase (mo.httpVersion m) "HTTP/2" = true
  · rw [if_pos hversion, if_pos hversion, hmo.withHeader, if_pos (by decide)]
  · rw [if_neg hversion, if_neg hversion, hmo.withRemovedHeader, if_pos (by decide)]

/-- **The four headers of a redirected request**, whatever the request had. -/
theorem values_redirected (hmo : mo.Lawful) (h : redirected k mo settings endpoint m = some m') :
    mo.values m' "x-tlsplus-target" = [buildTargetUrl (mo.url m)] ∧
    mo.values m' "x-tlsplus-profile" = [settings.profileName] ∧
    mo.values m' "x-tlsplus-timeout" = [("30" : Str)] ∧
    mo.values m' "x-tlsplus-http-version"
      = if eqIgnoreAsciiCase (mo.httpVersion m) "HTTP/2" then [("HTTP/2" : Str)] else [] := by
  obtain ⟨service, rfl⟩ := redirected_eq_some h
  refine ⟨?_, ?_, ?_, ?_⟩
  · rw [hmo.withHeader, if_neg (by decide), hmo.withHeader, if_neg (by decide), hmo.withHeader,
      if_pos (by decide)]
  · rw [hmo.withHeader, if_neg (by decide), hmo.withHeader, if_pos (by decide)]
  · rw [hmo.withHeader, if_pos (by decide)]
  · rw [hmo.withHeader, if_neg (by decide), hmo.withHeader, if_neg (by decide), hmo.withHeader,
      if_neg (by decide)]
    exact values_withVersionMarker hmo service

/-! ### What arrives -/

/-- One value that is field text arrives as the one text of its header. -/
theorem Arrives.single (h : Arrives mo m headers) {name : HeaderName} {value : Str}
    (hname : ("x-tlsplus-" : Str).isPrefixOf name.text = true)
    (hvalues : mo.values m name.text = [value]) (hvalue : FieldText value) :
    SingleText headers name value := by
  have harrived := h name hname (by rw [hvalues]; simpa using hvalue)
  rw [hvalues, List.map_singleton] at harrived
  obtain ⟨v, hv, htext⟩ := List.map_eq_singleton_iff.mp harrived
  exact ⟨v, hv, htext⟩

theorem Arrives.absent (h : Arrives mo m headers) {name : HeaderName}
    (hname : ("x-tlsplus-" : Str).isPrefixOf name.text = true)
    (hvalues : mo.values m name.text = []) : headers.getAll name = [] := by
  have harrived := h name hname (by rw [hvalues]; simp)
  rw [hvalues] at harrived
  exact List.map_eq_nil_iff.mp harrived

theorem internalHeader_of_single {name : HeaderName} {text : Str}
    (h : SingleText headers name text) : internalHeader headers name = .ok (some text) := by
  obtain ⟨value, hall, htext⟩ := h
  unfold internalHeader
  rw [hall]
  simp only [htext]

theorem plainMetadata_of_single {target profile timeout : Str} {secs : Nat}
    (htarget : SingleText headers .xTlsplusTarget target) (htargetne : target ≠ [])
    (hprofile : SingleText headers .xTlsplusProfile profile) (hprofilene : profile ≠ [])
    (htimeout : SingleText headers .xTlsplusTimeout timeout)
    (hsecs : parseUnsigned UInt64.size timeout = some secs) :
    plainMetadata headers = .ok ⟨target, profile, secs⟩ := by
  have hreadTarget : plainTarget headers = .ok target :=
    plainTarget_ok_iff.mpr ⟨htarget, htargetne⟩
  have hreadProfile : plainProfile headers = .ok profile := by
    unfold plainProfile
    rw [internalHeader_of_single hprofile]
    simp only [if_pos hprofilene]
  have hreadTimeout : plainTimeoutSecs headers = .ok secs := by
    unfold plainTimeoutSecs
    rw [internalHeader_of_single htimeout]
    simp only [hsecs]
  unfold plainMetadata
  rw [hreadTarget, hreadProfile, hreadTimeout]
  rfl

theorem declaredHttpVersion_of_single {version : Str}
    (h : SingleText headers .xTlsplusHttpVersion version)
    (hversion : eqIgnoreAsciiCase version "HTTP/2" = true) :
    declaredHttpVersion headers = .http2 := by
  obtain ⟨value, hall, htext⟩ := h
  unfold declaredHttpVersion
  rw [hall]
  simp only [htext, if_pos hversion]

theorem declaredHttpVersion_of_absent (h : headers.getAll .xTlsplusHttpVersion = []) :
    declaredHttpVersion headers = .absent := by
  unfold declaredHttpVersion
  rw [h]

/-! ### Encoder and decoder -/

/-- The schemes a URL is left alone for. -/
def schemePrefixes : List Str := ["http://", "https://", "ws://", "wss://"]

theorem buildTargetUrl_eq (url : Str) :
    buildTargetUrl url
      = if schemePrefixes.any (·.isPrefixOf url) then url else "https://" ++ url := by
  simp only [buildTargetUrl, schemePrefixes, List.any_cons, List.any_nil, Bool.or_false,
    Bool.or_assoc]

/-- The URL stays field text when the scheme is put before it. -/
theorem fieldText_buildTargetUrl {url : Str} (hurl : FieldText url) (hne : url ≠ []) :
    FieldText (buildTargetUrl url) ∧ buildTargetUrl url ≠ [] := by
  unfold buildTargetUrl
  split
  · exact ⟨hurl, hne⟩
  · have hvisible : ("https://" : Str).all isFieldChar = true := by decide
    have hnone : ("https://" : Str).all (fun c => !isWhitespace c) = true := by decide
    have htrim : trim ("https://" ++ url) = "https://" ++ url := by
      refine trim_append (fun c hc => ?_) hne hurl.2
      simpa using List.all_eq_true.mp hnone c hc
    refine ⟨⟨?_, htrim⟩, List.append_ne_nil_of_right_ne_nil _ hne⟩
    rw [List.all_append, hvisible, hurl.1]
    rfl

/-- **The proxy reads what the handler wrote.** From a redirected request the plain path decodes
the URL, the active profile, 30 seconds and the version marker, whatever headers the request
brought along. -/
theorem metadata_agrees (hmo : mo.Lawful) {request : Request}
    (hredirected : (redirected k mo settings endpoint m).isSome = true)
    (harrives : Arrives mo (handleHttpRequestToBeSent k mo settings endpoint m) request.headers)
    (hurl : FieldText (mo.url m)) (hurlne : mo.url m ≠ [])
    (hprofile : FieldText settings.profileName) (hprofilene : settings.profileName ≠ []) :
    plainMetadata request.headers = .ok {
      target :=
        if schemePrefixes.any (·.isPrefixOf (mo.url m)) then mo.url m
        else "https://" ++ mo.url m
      profile := settings.profileName
      timeoutSecs := 30 } ∧
    declaredHttpVersion request.headers
      = (if eqIgnoreAsciiCase (mo.httpVersion m) "HTTP/2" then .http2 else .absent) ∧
    ∀ (Client : Type) (w : World Client), classify request = .none → request.method ≠ .connect →
      proxyService w request = forwardPlain w request
        (if eqIgnoreAsciiCase (mo.httpVersion m) "HTTP/2" then some .http2 else none) := by
  obtain ⟨m', hm'⟩ := Option.isSome_iff_exists.mp hredirected
  have hhandled : handleHttpRequestToBeSent k mo settings endpoint m = m' := by
    rw [handleHttpRequestToBeSent, hm', Option.getD_some]
  rw [hhandled] at harrives
  obtain ⟨htarget, hprofileValue, htimeout, hversion⟩ := values_redirected hmo hm'
  obtain ⟨htargetText, htargetne⟩ := fieldText_buildTargetUrl hurl hurlne
  have hmetadata := plainMetadata_of_single
    (harrives.single (by decide) htarget htargetText) htargetne
    (harrives.single (by decide) hprofileValue hprofile) hprofilene
    (harrives.single (by decide) htimeout ⟨by decide, by decide⟩)
    (by decide : parseUnsigned UInt64.size ("30" : Str) = some 30)
  rw [buildTargetUrl_eq] at hmetadata
  have hdeclared : declaredHttpVersion request.headers
      = if eqIgnoreAsciiCase (mo.httpVersion m) "HTTP/2" then .http2 else .absent := by
    by_cases h2 : eqIgnoreAsciiCase (mo.httpVersion m) "HTTP/2" = true
    · rw [if_pos h2] at hversion ⊢
      exact declaredHttpVersion_of_single
        (harrives.single (by decide) hversion ⟨by decide, by decide⟩) (by decide)
    · rw [if_neg h2] at hversion ⊢
      exact declaredHttpVersion_of_absent (harrives.absent (by decide) hversion)
  refine ⟨hmetadata, hdeclared, fun Client w hplain hconnect => ?_⟩
  have hdispatch : ∀ declared, dispatch w request declared = forwardPlain w request declared := by
    intro declared
    unfold dispatch
    rw [hplain]
    simp [hconnect]
  unfold proxyService
  rw [hdeclared]
  by_cases h2 : eqIgnoreAsciiCase (mo.httpVersion m) "HTTP/2" = true
  · simp only [if_pos h2]
    exact hdispatch _
  · simp only [if_neg h2]
    exact hdispatch _

/-! ### A hostile page -/

/-- Headers that the proxy has one by one as the message has them are read there as they are. -/
theorem getAll_of_fields (h : List.Forall₂ (fun field entry =>
      toAsciiLowercase field.1 = entry.1.text ∧ entry.2.toStr = some field.2)
    (mo.headers m) headers.entries) (name : HeaderName) :
    (headers.getAll name).map HeaderValue.toStr = (mo.values m name.text).map some := by
  unfold Multimap.getAll Montoya.values
  generalize mo.headers m = fields at h ⊢
  generalize headers.entries = entries at h ⊢
  induction h with
  | nil => rfl
  | @cons field entry fields entries hfield _ ih =>
      by_cases hname : entry.1 = name
      · have hequal : eqIgnoreAsciiCase field.1 name.text = true := by
          rw [eqIgnoreAsciiCase_iff, hfield.1, hname, name.toAsciiLowercase_text]
        simp only [List.filter_cons, hname, hequal, decide_true, if_true, List.map_cons, hfield.2,
          ih]
      · have hdiffers : ¬eqIgnoreAsciiCase field.1 name.text = true := by
          rw [eqIgnoreAsciiCase_iff, hfield.1, name.toAsciiLowercase_text]
          exact fun htext => hname (HeaderName.ext htext)
        simp only [List.filter_cons, hname, hdiffers, decide_false, Bool.false_eq_true, if_false,
          ih]

theorem arrives_of_fields (h : List.Forall₂ (fun field entry =>
      toAsciiLowercase field.1 = entry.1.text ∧ entry.2.toStr = some field.2)
    (mo.headers m) headers.entries) : Arrives mo m headers :=
  fun name _ _ => getAll_of_fields h name

/-- A message as far as the handler sees it. -/
structure SampleMessage where
  service : HttpService
  url : Str
  version : Str
  fields : List (Str × Str)

def SampleMessage.without (m : SampleMessage) (name : Str) : List (Str × Str) :=
  m.fields.filter fun field => !eqIgnoreAsciiCase field.1 name

def sampleMontoya : Montoya SampleMessage where
  httpService := SampleMessage.service
  url := SampleMessage.url
  httpVersion := SampleMessage.version
  headers := SampleMessage.fields
  http2Request service m := { m with service := service, version := "HTTP/2" }
  withService m service := { m with service := service }
  withHeader m name value := { m with fields := m.without name ++ [(name, value)] }
  withRemovedHeader m name := { m with fields := m.without name }

/-- Dropping the headers of one name. -/
theorem filter_without (m : SampleMessage) (name other : Str) :
    ((m.without name).filter fun field => eqIgnoreAsciiCase field.1 other)
      = if eqIgnoreAsciiCase name other then []
        else m.fields.filter fun field => eqIgnoreAsciiCase field.1 other := by
  unfold SampleMessage.without
  rw [List.filter_filter]
  by_cases h : eqIgnoreAsciiCase name other = true
  · rw [if_pos h, List.filter_eq_nil_iff]
    intro field _
    rw [eqIgnoreAsciiCase_congr h]
    simp
  · rw [if_neg h]
    refine List.filter_congr fun field _ => ?_
    by_cases hother : eqIgnoreAsciiCase field.1 other = true
    · have hname : ¬eqIgnoreAsciiCase field.1 name = true := by
        intro hname
        rw [eqIgnoreAsciiCase_iff] at h hother hname
        exact h (hname.symm.trans hother)
      simp [hother, hname]
    · simp [hother]

theorem sampleMontoya_lawful : sampleMontoya.Lawful where
  withHeader m name value other := by
    show ((m.without name ++ [(name, value)]).filter _).map Prod.snd = _
    rw [List.filter_append, filter_without]
    by_cases h : eqIgnoreAsciiCase name other = true
    · rw [if_pos h, if_pos h]
      simp [h]
    · rw [if_neg h, if_neg h]
      rw [List.filter_cons_of_neg (by simpa using h), List.filter_nil, List.append_nil]
      rfl
  withRemovedHeader m name other := by
    show ((m.without name).filter _).map Prod.snd = _
    rw [filter_without]
    by_cases h : eqIgnoreAsciiCase name other = true
    · rw [if_pos h, if_pos h]
      rfl
    · rw [if_neg h, if_neg h]
      rfl

def sampleKotlin : Kotlin where
  lowercase := toAsciiLowercase
  digit c := if c.isDigit then some (c.toNat - 48) else none

/-- A page asks for a target, a profile and a version of its own. -/
def hostileMessage : SampleMessage where
  service := ⟨"up.example", 443, true⟩
  url := "https://up.example/"
  version := "HTTP/2"
  fields := [("X-TLSPLUS-Target", "http://127.0.0.1/"), ("x-tlsplus-profile", "okhttp"),
    ("X-Tlsplus-Http-Version", "HTTP/3"), ("x-tlsplus-timeout", "0")]

def hostileRequest : Request where
  method := .get
  version := .http11
  protocol := none
  headers := ⟨[(.xTlsplusHttpVersion, .fromStatic "HTTP/2"),
    (.xTlsplusTarget, .fromStatic "https://up.example/"),
    (.xTlsplusProfile, .fromStatic "chrome_149"), (.xTlsplusTimeout, .fromStatic "30")]⟩
  body := []
  onUpgrade := 0

/-- None of it wins. -/
theorem metadata_agrees_hostile :
    plainMetadata hostileRequest.headers = .ok ⟨"https://up.example/", "chrome_149", 30⟩ ∧
      declaredHttpVersion hostileRequest.headers = .http2 := by
  have hredirected : (redirected sampleKotlin sampleMontoya .empty
      (some ("127.0.0.1:43117" : Str)) hostileMessage).isSome = true := by decide
  have harrives : Arrives sampleMontoya (handleHttpRequestToBeSent sampleKotlin sampleMontoya
      .empty (some ("127.0.0.1:43117" : Str)) hostileMessage) hostileRequest.headers := by
    refine arrives_of_fields ?_
    show List.Forall₂ _ ([("X-Tlsplus-Http-Version", "HTTP/2"),
      ("X-Tlsplus-Target", "https://up.example/"), ("X-Tlsplus-Profile", "chrome_149"),
      ("X-Tlsplus-Timeout", "30")] : List (Str × Str)) _
    simp only [hostileRequest, List.forall₂_cons, List.Forall₂.nil, and_true]
    decide
  obtain ⟨hmetadata, hdeclared, -⟩ := metadata_agrees sampleMontoya_lawful hredirected harrives
    ⟨by decide, by decide⟩ (by decide) ⟨by decide, by decide⟩ (by decide)
  exact ⟨hmetadata, hdeclared⟩

end TlsPlus
