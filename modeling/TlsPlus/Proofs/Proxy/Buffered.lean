/-
The buffered call and the proxied request.

There are two ways to send a request: through the proxy, which reads it off the wire
and streams, and by a buffered call, which gets the same things as texts, may try
again, and is what the outbound test uses.  The test says something about the proxy
only if the two agree.  They share the client pool and the URL parser; what they do
not share is all that reads, checks, filters and reports.

`Mirrors` is a call made of what a proxied request is made of.  `mirrored_call` says
that it sends the same request and tells of the same answer, and where it does not.
-/
import TlsPlus.Proofs.Proxy.HeaderLines
import TlsPlus.Proofs.Proxy.Server.Send

namespace TlsPlus

open Text

variable {Client : Type} {w : World Client} {fw : ForwardWorld Client} {request : Request}
  {metadata : Metadata} {call : ProxyRequest}

/-! ### Lines and fields -/

/-- A field as a header line. -/
def fieldLine (field : HeaderName × HeaderValue) : Str :=
  field.1.text ++ ": " ++ fromUtf8Lossy field.2.bytes

/-- Every value is text without white space around it. -/
def TextValues (headers : HeaderMap) : Prop := ∀ field ∈ headers.entries, TextValue field.2

theorem buildForwardHeaders_map_fieldLine {fields : List (HeaderName × HeaderValue)}
    (h : ∀ field ∈ fields, TextValue field.2) :
    buildForwardHeaders (fields.map fieldLine) = ⟨fields⟩ := by
  rw [buildForwardHeaders_eq, List.filterMap_map]
  congr 1
  refine (List.filterMap_congr fun field hfield => ?_).trans List.filterMap_some
  exact parseHeaderLine_line field.1 (h field hfield)

/-- The lines of a response are those of the fields that are relayed. -/
theorem responseHeaderLines_eq (headers : HeaderMap) :
    responseHeaderLines headers = (headers.remove .transferEncoding).entries.map fieldLine := by
  have hkept : ∀ field : HeaderName × HeaderValue,
      decide (field.1.text ≠ ("transfer-encoding" : Str))
        = decide (field.1 ≠ .transferEncoding) := by
    intro field
    refine decide_eq_decide.mpr (not_congr ⟨fun h => HeaderName.ext h, fun h => ?_⟩)
    rw [h]
    rfl
  unfold responseHeaderLines Multimap.remove Multimap.iter
  simp only [hkept]
  rfl

/-! ### A call that mirrors a request -/

/-- The call is made of the same target, profile, timeout, method, headers and body. -/
structure Mirrors (fw : ForwardWorld Client) (w : World Client) (request : Request)
    (metadata : Metadata) (call : ProxyRequest) : Prop where
  client : fw.getWreqClient = w.getWreqClient
  parser : fw.parseUri = w.parseUri
  url : call.url = metadata.target
  profile : call.profile = metadata.profile
  timeoutSecs : call.timeoutSecs = metadata.timeoutSecs
  method : fw.parseMethod call.method = .ok request.method
  text : TextValues (plainHeaders request.headers)
  headers : call.headers = (plainHeaders request.headers).entries.map fieldLine
  body : call.body = request.body

/-- A URL with a host that is reached by HTTP. -/
def IsHttpUrl (uri : Uri) : Prop :=
  (uri.scheme = some ("http" : Str) ∨ uri.scheme = some ("https" : Str)) ∧
    uri.authority.isSome = true

theorem plainUri_ok_iff {target : Str} {uri : Uri} :
    plainUri w target = .ok uri ↔ w.parseUri target = .ok uri ∧ IsHttpUrl uri := by
  unfold plainUri
  cases hparse : w.parseUri target with
  | error e => simp
  | ok parsed =>
      by_cases hhttp : IsHttpUrl parsed
      · have hbranch : (parsed.scheme = some ("http" : Str) ∨
            parsed.scheme = some ("https" : Str)) ∧ parsed.authority.isSome := hhttp
        simp only [if_pos hbranch, Except.ok.injEq]
        exact ⟨fun h => ⟨h, h ▸ hhttp⟩, And.left⟩
      · have hbranch : ¬((parsed.scheme = some ("http" : Str) ∨
            parsed.scheme = some ("https" : Str)) ∧ parsed.authority.isSome) := hhttp
        simp only [if_neg hbranch, Except.ok.injEq]
        exact ⟨fun h => absurd h (by simp), fun h => absurd (h.1 ▸ h.2) hhttp⟩

/-- What of a request the buffered path decides; it leaves the HTTP version to the client. -/
def OutboundRequest.buffered (out : OutboundRequest Client) : BufferedRequest Client :=
  ⟨out.client, out.method, out.uri, out.headers, out.body⟩

theorem Mirrors.passes_iff (h : Mirrors fw w request metadata call) {client : Client} {uri : Uri}
    {method : Method} :
    Passes (.ok ()) fw call client uri method ↔
      w.getWreqClient metadata.profile = .ok client ∧ w.parseUri metadata.target = .ok uri ∧
        method = request.method := by
  constructor
  · intro hpasses
    refine ⟨?_, ?_, Except.ok.inj (hpasses.method.symm.trans h.method)⟩
    · rw [← h.client, ← h.profile]
      exact hpasses.client
    · rw [← h.parser, ← h.url]
      exact hpasses.uri
  · rintro ⟨hclient, huri, rfl⟩
    refine ⟨rfl, ?_, ?_, h.method⟩
    · rw [h.client, h.profile]
      exact hclient
    · rw [h.parser, h.url]
      exact huri

/-- What the call sends is what the proxy sends. -/
theorem Mirrors.request_eq (h : Mirrors fw w request metadata call) (client : Client) (uri : Uri) :
    (call.forwardCall client uri request.method).request
      = (plainOutbound request uri client).buffered := by
  unfold ProxyRequest.forwardCall OutboundRequest.buffered plainOutbound
  rw [h.headers, h.body, buildForwardHeaders_map_fieldLine h.text]

/-! ### One outcome, reported twice -/

/-- A buffered attempt meets what a proxied request meets. -/
inductive SameOutcome : SendOutcome → Attempt → Prop
  | response (response : UpstreamResponse) :
      SameOutcome (.response response)
        (.response ⟨response.status, response.headers, .ok response.body⟩)
  | error (error : WreqError) : SameOutcome (.error error.message) (.error error)
  | timeout : SameOutcome .timeout .timeout

/-- The two reports tell of what was met in the same way: a response by its status, its body and a
line for each field, which reads as the field if the values are text; an error by the same message;
a timeout by the same message, to which the call adds the profile. -/
inductive SameAnswer (profile : Str) : SendOutcome → Response → ProxyResponse → Prop
  | answered {upstream : UpstreamResponse} {response : Response} {reported : ProxyResponse}
      (herror : reported.error = none) (hcode : reported.statusCode = response.status.code)
      (hbody : response.body = .stream reported.body)
      (hlines : reported.headers = response.headers.entries.map fieldLine)
      (hfields : TextValues response.headers →
        buildForwardHeaders reported.headers = response.headers) :
      SameAnswer profile (.response upstream) response reported
  | failed {error message : Str} {reported : ProxyResponse} (hcode : reported.statusCode = 0)
      (herror : reported.error = some message) :
      SameAnswer profile (.error error) (errorResponse .badGateway message) reported
  | timedOut {message : Str} {reported : ProxyResponse} (hcode : reported.statusCode = 0)
      (herror : reported.error = some (message ++ " (profile: " ++ profile ++ ")")) :
      SameAnswer profile .timeout (errorResponse .gatewayTimeout message) reported

theorem sameAnswer_response (profile : Str) (response : UpstreamResponse) {reported : ProxyResponse}
    (herror : reported.error = none) (hcode : reported.statusCode = response.status.code)
    (hheaders : reported.headers = responseHeaderLines response.headers)
    (hbody : reported.body = response.body) :
    SameAnswer profile (.response response) (convertResponse response) reported := by
  have hlines : reported.headers = (convertResponse response).headers.entries.map fieldLine :=
    hheaders.trans (responseHeaderLines_eq response.headers)
  refine .answered herror hcode (congrArg ServerBody.stream hbody.symm) hlines fun htext => ?_
  rw [hlines]
  exact buildForwardHeaders_map_fieldLine htext

/-- The timeouts agree, but that of 0 seconds: the proxy takes it for 1, the call for 30. -/
theorem effectiveTimeoutSecs_eq {secs : Nat} (h : secs ≠ 0) :
    effectiveTimeoutSecs secs = max secs 1 := by
  unfold effectiveTimeoutSecs
  rw [if_neg h, Nat.max_eq_left (Nat.one_le_iff_ne_zero.mpr h)]

theorem Mirrors.sameAnswer (h : Mirrors fw w request metadata call) (uri : Uri) {attempt : Nat}
    (hsame : SameOutcome w.send (fw.attempt attempt))
    (htimeout : w.send = .timeout → metadata.timeoutSecs ≠ 0) :
    SameAnswer metadata.profile w.send (plainAnswer w metadata) (call.report fw uri attempt) := by
  unfold plainAnswer ProxyRequest.report
  generalize w.send = outcome at hsame htimeout
  generalize fw.attempt attempt = met at hsame
  cases hsame with
  | response response => exact sameAnswer_response _ response rfl rfl rfl rfl
  | error error =>
      refine .failed rfl ?_
      rw [h.url, h.profile]
      rfl
  | timeout =>
      refine .timedOut rfl ?_
      rw [h.url, h.profile, h.timeoutSecs, effectiveTimeoutSecs_eq (htimeout rfl)]
      simp only [failedResponse, List.append_assoc]

/-! ### The two paths -/

/-- A call sends something exactly if it passes its checks. -/
theorem sent_ne_nil_iff {runtime : Except Str Unit} :
    (proxySendRequest runtime fw call).sent ≠ [] ↔
      ∃ client uri method, Passes runtime fw call client uri method := by
  constructor
  · intro hsent
    rcases proxySendRequest_cases runtime fw call with ⟨error, hfailed⟩ | hpasses
    · exact absurd (congrArg Answered.sent hfailed) hsent
    · exact hpasses
  · rintro ⟨client, uri, method, hpasses⟩
    obtain ⟨last, hlast⟩ := exists_last fw (maxRetries method call.body)
    rw [proxySendRequest_of_passes hpasses hlast]
    simp

/-- What the proxy sends for a plain request was admitted under its metadata. -/
theorem admitsPlain_of_mem (hplain : classify request = .none)
    (hmetadata : plainMetadata request.headers = .ok metadata) {out : OutboundRequest Client}
    (hout : out ∈ (proxyService w request).sent) :
    ∃ uri client, AdmitsPlain w request metadata uri client ∧
      out = plainOutbound request uri client := by
  rcases mem_sent hout with ⟨metadata', uri, client, hadmits, rfl⟩ |
    ⟨transport, metadata', uri, client, hadmits, -⟩
  · obtain rfl := Except.ok.inj (hmetadata.symm.trans hadmits.metadataOk)
    exact ⟨uri, client, hadmits, rfl⟩
  · exact absurd (hplain.symm.trans hadmits.handshake) (by simp)

/-- **A buffered call stands for a proxied request.** Let a call be made of what a plain request
is made of.  The proxy sends the request exactly if the call sends anything and the URL is an
absolute `http` or `https` one, which only the proxy asks for.  Then the call sends the same
request, but for the HTTP version, and once more for each repetition; and if its last attempt
meets what the proxy's request meets, both tell of the same answer: the call only names the profile
when the time is up, and replaces what is no text in a header value.  Only a timeout of 0 seconds is
not the same to both. -/
theorem mirrored_call (h : Mirrors fw w request metadata call)
    (hguard : PassesVersionGuard request) (hplain : classify request = .none)
    (hmetadata : plainMetadata request.headers = .ok metadata) :
    let proxied := proxyService w request
    let called := proxySendRequest (.ok ()) fw call
    (proxied.sent ≠ [] ↔
      called.sent ≠ [] ∧ ∀ uri, w.parseUri metadata.target = .ok uri → IsHttpUrl uri) ∧
    ∀ out ∈ proxied.sent,
      ∃ k, IsLeast {i | i = maxRetries out.method out.body ∨ ¬Retryable (fw.attempt i)} k ∧
        called.sent = List.replicate (k + 1) out.buffered ∧
        (SameOutcome w.send (fw.attempt k) →
          (w.send = .timeout → metadata.timeoutSecs ≠ 0) →
          SameAnswer metadata.profile w.send proxied.response called.response) := by
  intro proxied called
  constructor
  · constructor
    · intro hsent
      obtain ⟨out, hout⟩ := List.exists_mem_of_ne_nil _ hsent
      obtain ⟨uri, client, hadmits, -⟩ := admitsPlain_of_mem hplain hmetadata hout
      obtain ⟨hparse, hhttp⟩ := plainUri_ok_iff.mp hadmits.uriOk
      refine ⟨sent_ne_nil_iff.mpr ⟨client, uri, _,
        h.passes_iff.mpr ⟨hadmits.clientOk, hparse, rfl⟩⟩, fun uri' hparse' => ?_⟩
      exact Except.ok.inj (hparse.symm.trans hparse') ▸ hhttp
    · rintro ⟨hsent, hhttp⟩
      obtain ⟨client, uri, method, hpasses⟩ := sent_ne_nil_iff.mp hsent
      obtain ⟨hclient, hparse, -⟩ := h.passes_iff.mp hpasses
      have hadmits : AdmitsPlain w request metadata uri client :=
        ⟨hguard, hplain, hmetadata, plainUri_ok_iff.mpr ⟨hparse, hhttp uri hparse⟩, hclient⟩
      show (proxyService w request).sent ≠ []
      rw [proxyService_of_admitsPlain hadmits]
      exact List.cons_ne_nil _ _
  · intro out hout
    obtain ⟨uri, client, hadmits, rfl⟩ := admitsPlain_of_mem hplain hmetadata hout
    obtain ⟨hparse, -⟩ := plainUri_ok_iff.mp hadmits.uriOk
    have hpasses : Passes (.ok ()) fw call client uri request.method :=
      h.passes_iff.mpr ⟨hadmits.clientOk, hparse, rfl⟩
    obtain ⟨k, hk⟩ := exists_last fw (maxRetries request.method request.body)
    have hcalled : called = _ := proxySendRequest_of_passes hpasses (h.body ▸ hk)
    refine ⟨k, hk, ?_, fun hsame htimeout => ?_⟩
    · rw [hcalled, h.request_eq]
    · rw [hcalled]
      show SameAnswer metadata.profile w.send (proxyService w request).response _
      rw [proxyService_of_admitsPlain hadmits]
      exact h.sameAnswer uri hsame htimeout

def lengthyRequest : Request :=
  { sampleRequest .post .http11 [(.contentLength, .fromStatic "3")] with body := [91, 48, 93] }

def lengthyCall : ProxyRequest where
  id := "8"
  method := "POST"
  url := "http://up.example/"
  headers := ["content-length: 3"]
  body := [91, 48, 93]
  profile := "pass-through"
  timeoutSecs := 30

/-- The proxy's request is answered at once, the call's after a 503. -/
theorem mirrored_call_repeated :
    let proxied := proxyService (sampleWorld (.response ⟨.http11, .ok, .empty, []⟩)) lengthyRequest
    let called := proxySendRequest (.ok ()) recoveringUpstream lengthyCall
    ∃ out, out ∈ proxied.sent ∧ called.sent = [out.buffered, out.buffered] ∧
      SameAnswer "pass-through" (.response ⟨.http11, .ok, .empty, []⟩) proxied.response
        called.response := by
  intro proxied called
  have hmirrors : Mirrors recoveringUpstream
      (sampleWorld (.response ⟨.http11, .ok, .empty, []⟩)) lengthyRequest
      ⟨"http://up.example/", "pass-through", 30⟩ lengthyCall := by
    refine ⟨rfl, rfl, rfl, rfl, rfl, by decide, fun field hfield => ?_, by decide, rfl⟩
    have hone : field ∈ [(HeaderName.contentLength, HeaderValue.fromStatic "3")] := by
      have hheaders : (plainHeaders lengthyRequest.headers).entries
          = [(.contentLength, .fromStatic "3")] := by decide
      exact hheaders ▸ hfield
    rw [List.mem_singleton.mp hone]
    exact ⟨"3", by decide, by decide⟩
  obtain ⟨-, hsent⟩ := mirrored_call hmirrors ⟨by decide, by decide⟩ (by decide) (by decide)
  have hout : (plainOutbound lengthyRequest
      ⟨some "http", some "up.example", some "up.example", none, "/", none⟩ 1) ∈ proxied.sent := by
    decide
  obtain ⟨k, hk, hcalled, hanswer⟩ := hsent _ hout
  have hserver : StatusCode.isServerError ⟨503, by decide⟩ = true := by decide
  have hone : k = 1 := by
    have hle : k ≤ 1 := hk.2 (Or.inl (by decide))
    have hne : k ≠ 0 := by
      rintro rfl
      rcases hk.1 with hspent | hends
      · exact absurd hspent (by decide)
      · exact hends hserver
    omega
  rw [hone] at hcalled hanswer
  exact ⟨_, hout, hcalled, hanswer (.response ⟨.http11, .ok, .empty, []⟩) (by simp [sampleWorld])⟩

end TlsPlus
