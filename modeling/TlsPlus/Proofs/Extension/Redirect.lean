/-
What a redirected request comes to at its server.

Between Burp's message and the request its server sees lie the handler, the way to
the proxy, and the proxy.  The handler names the server in headers of its own, the
proxy reads them there and takes them out again, and neither touches the end-to-end
headers; so a redirected message is sent to where it was going, once, with the
headers it had (`redirect_transparent`).  A handshake goes the other path through the
proxy, which reads metadata less strictly, but of what the handler writes both paths
read the same (`redirect_handshake`).

Of Montoya it is relied on that a message made for another service keeps its
end-to-end headers.
-/
import TlsPlus.Proofs.Extension.HttpHandler
import TlsPlus.Proofs.Proxy.Handshake
import TlsPlus.Proofs.Proxy.Target

namespace TlsPlus

open Text

variable {Message Client : Type} {mo : Montoya Message} {k : Kotlin} {settings : Preferences}
  {endpoint : Option Str} {m m' : Message} {request : Request} {headers : HeaderMap}

/-! ### What is relied on -/

/-- A message made for a service has the end-to-end headers of the message it is made from. -/
structure Montoya.KeepsHeaders (mo : Montoya Message) : Prop where
  http2Request : ∀ service m (name : HeaderName), EndToEnd name →
    mo.values (mo.http2Request service m) name.text = mo.values m name.text
  withService : ∀ m service (name : HeaderName), EndToEnd name →
    mo.values (mo.withService m service) name.text = mo.values m name.text

/-- A header arrives with the values it was sent with, if these are visible text without white
space around it. -/
def Delivered (mo : Montoya Message) (m : Message) (headers : HeaderMap) (name : HeaderName) :
    Prop :=
  (∀ value ∈ mo.values m name.text, FieldText value) →
    (headers.getAll name).map HeaderValue.toStr = (mo.values m name.text).map some

/-- Burp's message on its way to the proxy: metadata and end-to-end headers arrive. -/
structure DeliveredAll (mo : Montoya Message) (m : Message) (headers : HeaderMap) : Prop where
  metadata : ∀ name, IsMetadata name → Delivered mo m headers name
  endToEnd : ∀ name, EndToEnd name → Delivered mo m headers name

theorem DeliveredAll.arrives (h : DeliveredAll mo m headers) : Arrives mo m headers :=
  fun name hname => h.metadata name (List.isPrefixOf_iff_prefix.mp hname)

/-! ### The end-to-end headers of a redirected message -/

/-- The handler's own headers are no end-to-end headers. -/
theorem EndToEnd.not_written {name : HeaderName} (h : EndToEnd name) {written : Str}
    (hwritten : ("x-tlsplus-" : Str) <+: toAsciiLowercase written) :
    ¬eqIgnoreAsciiCase written name.text = true := by
  intro heq
  rw [eqIgnoreAsciiCase_iff, name.toAsciiLowercase_text] at heq
  rw [heq] at hwritten
  exact h.not_metadata hwritten

theorem values_withVersionMarker_of_endToEnd (hmo : mo.Lawful) (hkeeps : mo.KeepsHeaders)
    (service : HttpService) {name : HeaderName} (hname : EndToEnd name) :
    mo.values (withVersionMarker mo service m) name.text = mo.values m name.text := by
  have hother : ¬eqIgnoreAsciiCase "X-Tlsplus-Http-Version" name.text = true :=
    hname.not_written (by decide)
  unfold withVersionMarker
  split
  · rw [hmo.withHeader, if_neg hother, hkeeps.http2Request _ _ _ hname]
  · rw [hmo.withRemovedHeader, if_neg hother, hkeeps.withService _ _ _ hname]

/-- **Redirecting a message leaves its end-to-end headers as they are.** -/
theorem values_redirected_of_endToEnd (hmo : mo.Lawful) (hkeeps : mo.KeepsHeaders)
    (h : redirected k mo settings endpoint m = some m') {name : HeaderName}
    (hname : EndToEnd name) : mo.values m' name.text = mo.values m name.text := by
  obtain ⟨service, rfl⟩ := redirected_eq_some h
  rw [hmo.withHeader, if_neg (hname.not_written (by decide)),
    hmo.withHeader, if_neg (hname.not_written (by decide)),
    hmo.withHeader, if_neg (hname.not_written (by decide))]
  exact values_withVersionMarker_of_endToEnd hmo hkeeps service hname

/-- The request went to the proxy in place of the message, and can be read there: the URL and the
name of the profile are visible text without white space around it. -/
structure Redirects (k : Kotlin) (mo : Montoya Message) (settings : Preferences)
    (endpoint : Option Str) (m : Message) (request : Request) : Prop where
  redirected : (redirected k mo settings endpoint m).isSome = true
  delivered : DeliveredAll mo (handleHttpRequestToBeSent k mo settings endpoint m) request.headers
  url : FieldText (mo.url m) ∧ mo.url m ≠ []
  profile : FieldText settings.profileName ∧ settings.profileName ≠ []

/-- The message is an HTTP/2 message. -/
abbrev Montoya.IsHttp2 (mo : Montoya Message) (m : Message) : Prop :=
  eqIgnoreAsciiCase (mo.httpVersion m) "HTTP/2" = true

namespace Redirects

theorem handled (h : Redirects k mo settings endpoint m request) :
    ∃ m', TlsPlus.redirected k mo settings endpoint m = some m' ∧
      DeliveredAll mo m' request.headers := by
  obtain ⟨m', hm'⟩ := Option.isSome_iff_exists.mp h.redirected
  have hdelivered := h.delivered
  rw [handleHttpRequestToBeSent, hm', Option.getD_some] at hdelivered
  exact ⟨m', hm', hdelivered⟩

/-- Of the metadata there is one text each. -/
theorem singles (hmo : mo.Lawful) (h : Redirects k mo settings endpoint m request) :
    SingleText request.headers .xTlsplusTarget (buildTargetUrl (mo.url m)) ∧
      SingleText request.headers .xTlsplusProfile settings.profileName ∧
      SingleText request.headers .xTlsplusTimeout "30" := by
  obtain ⟨m', hm', hdelivered⟩ := h.handled
  obtain ⟨htarget, hprofile, htimeout, -⟩ := values_redirected hmo hm'
  have harrives := hdelivered.arrives
  exact ⟨harrives.single (by decide) htarget (fieldText_buildTargetUrl h.url.1 h.url.2).1,
    harrives.single (by decide) hprofile h.profile.1,
    harrives.single (by decide) htimeout ⟨by decide, by decide⟩⟩

theorem declaredVersion_eq (hmo : mo.Lawful) (h : Redirects k mo settings endpoint m request) :
    declaredHttpVersion request.headers ≠ .invalid ∧
      (mo.IsHttp2 m → declaredVersion request = some .http2) ∧
      (¬mo.IsHttp2 m → declaredVersion request = none) := by
  obtain ⟨m', hm', hdelivered⟩ := h.handled
  obtain ⟨-, -, -, hvalues⟩ := values_redirected hmo hm'
  have harrives := hdelivered.arrives
  unfold declaredVersion
  by_cases h2 : mo.IsHttp2 m
  · rw [if_pos h2] at hvalues
    have hdeclared := declaredHttpVersion_of_single
      (harrives.single (by decide) hvalues ⟨by decide, by decide⟩) (by decide)
    rw [hdeclared]
    exact ⟨by decide, fun _ => rfl, fun hnot => absurd h2 hnot⟩
  · rw [if_neg h2] at hvalues
    rw [declaredHttpVersion_of_absent (harrives.absent (by decide) hvalues)]
    exact ⟨by decide, fun h2' => absurd h2' h2, fun _ => rfl⟩

/-- An end-to-end header that the proxy keeps has the message's own values. -/
theorem getAll_eq (hmo : mo.Lawful) (hkeeps : mo.KeepsHeaders)
    (h : Redirects k mo settings endpoint m request) {name : HeaderName} (hname : EndToEnd name)
    (htext : ∀ value ∈ mo.values m name.text, FieldText value) :
    (request.headers.getAll name).map HeaderValue.toStr = (mo.values m name.text).map some := by
  obtain ⟨m', hm', hdelivered⟩ := h.handled
  have hvalues := values_redirected_of_endToEnd hmo hkeeps hm' hname
  have harrived := hdelivered.endToEnd name hname
  unfold Delivered at harrived
  rw [hvalues] at harrived
  exact harrived htext

end Redirects

/-! ### Plain requests -/

/-- The metadata that is read from a redirected message's request. -/
def redirectMetadata (mo : Montoya Message) (settings : Preferences) (m : Message) : Metadata :=
  ⟨buildTargetUrl (mo.url m), settings.profileName, 30⟩

/-- The headers sent upstream in place of a message: its own end-to-end headers, less those the
path drops, and nothing of the metadata. -/
structure SendsOwnHeaders (mo : Montoya Message) (m : Message) (request : Request)
    (outbound : HeaderMap) : Prop where
  own : ∀ name, EndToEnd name → ¬NominatedOnPath request name →
    (∀ value ∈ mo.values m name.text, FieldText value) →
      (outbound.getAll name).map HeaderValue.toStr = (mo.values m name.text).map some
  nothing_else : ∀ name, ¬EndToEnd name → ¬Regenerated request name → outbound.getAll name = []

theorem Redirects.sendsOwnHeaders (hmo : mo.Lawful) (hkeeps : mo.KeepsHeaders)
    (h : Redirects k mo settings endpoint m request) {outbound : HeaderMap}
    (honly : EndToEndOnly request outbound) : SendsOwnHeaders mo m request outbound where
  own name hname hpath htext := by
    rw [honly.forwarded name hname hpath]
    exact h.getAll_eq hmo hkeeps hname htext
  nothing_else name hname hfresh := by
    by_contra hsent
    rcases honly.nothing_else name hsent with hkept | hregenerated
    · exact hname hkept.1
    · exact hfresh hregenerated

theorem Redirects.plainMetadata_eq (hmo : mo.Lawful)
    (h : Redirects k mo settings endpoint m request) :
    plainMetadata request.headers = .ok (redirectMetadata mo settings m) := by
  obtain ⟨htarget, hprofile, htimeout⟩ := h.singles hmo
  exact plainMetadata_of_single htarget (fieldText_buildTargetUrl h.url.1 h.url.2).2 hprofile
    h.profile.2 htimeout (by decide)

/-- **A redirected message reaches its own server, once, as it was.** The request that the proxy
sends for it is for the URL of the message, is made by the client of the active profile, is an
HTTP/2 request exactly if the message is one or the way to the proxy is, and has the message's
end-to-end headers and no others.  If the URL is none or the profile has no client, nothing is
sent. -/
theorem redirect_transparent (hmo : mo.Lawful) (hkeeps : mo.KeepsHeaders)
    (h : Redirects k mo settings endpoint m request) (hplain : classify request = .none)
    (hconnect : request.method ≠ .connect) (w : World Client) :
    (∀ uri client, plainUri w (buildTargetUrl (mo.url m)) = .ok uri →
      w.getWreqClient settings.profileName = .ok client →
        ∃ out, proxyService w request =
            { response := plainAnswer w (redirectMetadata mo settings m), sent := [out]
              jobs := [] } ∧
          out.uri = uri ∧ out.client = client ∧ out.method = request.method ∧
          out.body = request.body ∧
          (out.version = .http2 ↔ mo.IsHttp2 m ∨ request.version = .http2) ∧
          (¬mo.IsHttp2 m → out.version = request.version) ∧
          SendsOwnHeaders mo m request out.headers) ∧
    ((∀ uri, plainUri w (buildTargetUrl (mo.url m)) ≠ .ok uri) ∨
      (∀ client, w.getWreqClient settings.profileName ≠ .ok client) →
        (proxyService w request).sent = [] ∧ (proxyService w request).jobs = []) := by
  obtain ⟨hvalid, hhttp2, hhttp1⟩ := h.declaredVersion_eq hmo
  have hmetadata := h.plainMetadata_eq hmo
  have hguard : PassesVersionGuard request := by
    refine ⟨hvalid, fun htunnel => ?_⟩
    rcases htunnel with htunnel | htunnel
    · exact absurd htunnel hconnect
    · exact absurd hplain htunnel
  constructor
  · intro uri client huri hclient
    have hadmits : AdmitsPlain w request (redirectMetadata mo settings m) uri client :=
      ⟨hguard, hplain, hmetadata, huri, hclient⟩
    refine ⟨_, proxyService_of_admitsPlain hadmits, rfl, rfl, rfl, rfl, ?_, fun hnot => ?_,
      h.sendsOwnHeaders hmo hkeeps (endToEndOnly_plain hplain)⟩
    · show (declaredVersion request).getD request.version = .http2 ↔ _
      by_cases h2 : mo.IsHttp2 m
      · rw [hhttp2 h2]
        exact iff_of_true rfl (Or.inl h2)
      · rw [hhttp1 h2, or_iff_right h2]
        exact Iff.rfl
    · show (declaredVersion request).getD request.version = request.version
      rw [hhttp1 hnot]
      rfl
  · intro hrefused
    rcases proxyService_cases w request with ⟨status, message, -, hcase⟩ |
      ⟨metadata, uri, client, hadmits⟩ | ⟨transport, metadata, uri, client, hadmits⟩
    · rw [hcase]
      exact ⟨rfl, rfl⟩
    · obtain rfl := Except.ok.inj (hadmits.metadataOk.symm.trans hmetadata)
      rcases hrefused with huri | hclient
      · exact absurd hadmits.uriOk (huri uri)
      · exact absurd hadmits.clientOk (hclient client)
    · exact absurd hadmits.handshake (by simp [hplain])

/-- A page asks for a target of its own, and its message has a body. -/
def postMessage : SampleMessage where
  service := ⟨"up.example", 443, true⟩
  url := "https://up.example/"
  version := "HTTP/1.1"
  fields := [("X-TLSPLUS-Target", "http://127.0.0.1/"), ("Content-Length", "2")]

def postRequest : Request where
  method := .post
  version := .http11
  protocol := none
  headers := ⟨(.contentLength, .fromStatic "2") :: hostileRequest.headers.entries.drop 1⟩
  body := [123, 125]
  onUpgrade := 0

theorem sampleMontoya_keepsHeaders : sampleMontoya.KeepsHeaders where
  http2Request _ _ _ _ := rfl
  withService _ _ _ _ := rfl

theorem deliveredAll_of_fields (h : List.Forall₂ (fun field entry =>
      toAsciiLowercase field.1 = entry.1.text ∧ entry.2.toStr = some field.2)
    (mo.headers m) headers.entries) : DeliveredAll mo m headers :=
  ⟨fun name _ _ => getAll_of_fields h name, fun name _ _ => getAll_of_fields h name⟩

theorem postRequest_redirects : Redirects sampleKotlin sampleMontoya .empty
    (some ("127.0.0.1:43117" : Str)) postMessage postRequest where
  redirected := by decide
  delivered := by
    refine deliveredAll_of_fields ?_
    show List.Forall₂ _ ([("Content-Length", "2"), ("X-Tlsplus-Target", "https://up.example/"),
      ("X-Tlsplus-Profile", "chrome_149"), ("X-Tlsplus-Timeout", "30")] : List (Str × Str)) _
    simp only [postRequest, hostileRequest, List.drop, List.forall₂_cons, List.Forall₂.nil,
      and_true]
    decide
  url := ⟨⟨by decide, by decide⟩, by decide⟩
  profile := ⟨⟨by decide, by decide⟩, by decide⟩

/-- It is sent to its own target, with its length and its body. -/
theorem redirect_transparent_post :
    ∃ out, (proxyService (sampleWorld .timeout) postRequest).sent = [out] ∧
      out.uri.scheme = some ("https" : Str) ∧ out.body = [123, 125] ∧ out.version = .http11 ∧
      (out.headers.getAll .contentLength).map HeaderValue.toStr = [some ("2" : Str)] := by
  obtain ⟨hsent, -⟩ := redirect_transparent sampleMontoya_lawful sampleMontoya_keepsHeaders
    postRequest_redirects (by decide) (by decide) (sampleWorld .timeout)
  obtain ⟨out, heq, huri, -, -, hbody, -, hversion, hheaders⟩ := hsent _ 1 rfl rfl
  have hlength : EndToEnd .contentLength := keepsPlainHeader_iff.mp (by decide)
  have hown := hheaders.own .contentLength hlength (fun hn => absurd hn.1 (by decide)) (by
    intro value hvalue
    have htwo : value ∈ ([("2" : Str)] : List Str) := hvalue
    rw [List.mem_singleton.mp htwo]
    exact ⟨by decide, by decide⟩)
  refine ⟨out, by rw [heq], by rw [huri], hbody, hversion (by decide), hown⟩

/-! ### Handshakes -/

/-- A handshake comes over the HTTP version of its transport. -/
theorem version_of_handshake {transport : WebSocketTransport}
    (h : classify request = .webSocket transport) :
    request.version = .http2 ↔ transport = .http2 := by
  unfold classify at h
  cases hprotocol : request.protocol with
  | some protocol =>
      simp only [hprotocol] at h
      split at h
      · rename_i hconnect
        rw [← UpgradeRequest.webSocket.inj h]
        exact iff_of_true hconnect.2.1 rfl
      · exact absurd h (by simp)
  | none =>
      simp only [hprotocol] at h
      split at h
      · exact absurd h (by simp)
      · split at h
        · rename_i hget
          rw [← UpgradeRequest.webSocket.inj h, hget.2.1]
          exact iff_of_false (by decide) (by decide)
        · exact absurd h (by simp)

theorem Redirects.websocketMetadata_eq (hmo : mo.Lawful)
    (h : Redirects k mo settings endpoint m request) :
    websocketMetadata request.headers = .ok (redirectMetadata mo settings m) := by
  obtain ⟨htarget, hprofile, htimeout⟩ := h.singles hmo
  have hsecs : firstTimeoutSecs request.headers = 30 := by
    unfold firstTimeoutSecs
    rw [firstText_of_single htimeout]
    decide
  have hne := (fieldText_buildTargetUrl h.url.1 h.url.2).2
  have hfirst := firstText_of_single htarget
  rcases websocketMetadata_cases request.headers with ⟨hmissing, -⟩ | ⟨target, hread, -, hok⟩
  · rw [hfirst] at hmissing
    rcases hmissing with hmissing | hmissing
    · exact absurd hmissing (by simp)
    · exact absurd (Option.some.inj hmissing) hne
  · obtain rfl := Option.some.inj (hfirst.symm.trans hread)
    rw [hok, firstText_of_single hprofile, hsecs]
    rfl

/-- The request of a handshake on its transport. -/
structure HandshakeOn (transport : WebSocketTransport) (out : OutboundRequest Client) : Prop where
  http1 : transport = .http1 → out.method = .get ∧ out.version = .http11 ∧ out.protocol = none
  http2 : transport = .http2 →
    out.method = .connect ∧ out.version = .http2 ∧ out.protocol = some "websocket"

theorem handshakeOn_websocketOutbound (request : Request) (transport : WebSocketTransport)
    (uri : Uri) (client : Client) :
    HandshakeOn transport (websocketOutbound request transport uri client) := by
  constructor
  · rintro rfl
    exact ⟨rfl, rfl, rfl⟩
  · rintro rfl
    exact ⟨rfl, rfl, rfl⟩

/-- What a handshake of a redirected message has to meet to be sent on. -/
structure AdmitsRedirect (w : World Client) (mo : Montoya Message) (settings : Preferences)
    (m : Message) (transport : WebSocketTransport) (text : Str) (uri : Uri) (client : Client) :
    Prop where
  version : mo.IsHttp2 m → transport = .http2
  normal : NormalText (buildTargetUrl (mo.url m)) text
  uriOk : w.parseUri text = .ok uri
  clientOk : w.getWreqClient settings.profileName = .ok client
  deadlineOk : w.deadlineInRange 30 = true

theorem Redirects.admitsWebsocket_iff (hmo : mo.Lawful)
    (h : Redirects k mo settings endpoint m request) {transport : WebSocketTransport}
    (hclass : classify request = .webSocket transport) {w : World Client} {uri : Uri}
    {client : Client} :
    AdmitsWebsocket w request transport (redirectMetadata mo settings m) uri client ↔
      ∃ text, AdmitsRedirect w mo settings m transport text uri client := by
  obtain ⟨hvalid, hhttp2, hhttp1⟩ := h.declaredVersion_eq hmo
  have htransport := version_of_handshake hclass
  constructor
  · intro hadmits
    obtain ⟨text, htext, hparse⟩ := normalizeTarget_ok_iff.mp hadmits.uriOk
    have htunnel := hadmits.guard.tunnel (Or.inr (by simp [hclass]))
    exact ⟨text, fun h2 => htransport.mp (htunnel _ (hhttp2 h2)).symm, htext, hparse,
      hadmits.clientOk, hadmits.deadlineOk⟩
  · intro ⟨text, hadmits⟩
    refine ⟨⟨hvalid, fun _ version hversion => ?_⟩, hclass, h.websocketMetadata_eq hmo,
      normalizeTarget_ok_iff.mpr ⟨text, hadmits.normal, hadmits.uriOk⟩, hadmits.clientOk,
      hadmits.deadlineOk⟩
    by_cases h2 : mo.IsHttp2 m
    · rw [hhttp2 h2] at hversion
      rw [← Option.some.inj hversion, htransport.mpr (hadmits.version h2)]
    · rw [hhttp1 h2] at hversion
      exact absurd hversion (by simp)

/-- **A redirected handshake reaches its own server, and both paths would read it alike.** The
metadata is what the plain path reads too, so none of what the handshake's reader lets pass can
come from the handler.  The handshake is sent on, once, to the URL of the message in `http` or
`https`, by the client of the active profile, as a handshake of its own transport and with the
message's end-to-end headers; unless the message is an HTTP/2 message and the handshake is not,
or the URL, the client or the deadline is refused, and then nothing is sent. -/
theorem redirect_handshake (hmo : mo.Lawful) (hkeeps : mo.KeepsHeaders)
    (h : Redirects k mo settings endpoint m request) {transport : WebSocketTransport}
    (hclass : classify request = .webSocket transport) (w : World Client) :
    websocketMetadata request.headers = plainMetadata request.headers ∧
    (∀ text uri client, AdmitsRedirect w mo settings m transport text uri client →
      ∃ out, proxyService w request =
          { response := (websocketAnswer w request transport (redirectMetadata mo settings m)).1
            sent := [out]
            jobs := (websocketAnswer w request transport (redirectMetadata mo settings m)).2 } ∧
        out.uri = uri ∧ out.client = client ∧ HandshakeOn transport out ∧
        SendsOwnHeaders mo m request out.headers ∧
        (transport = .http1 → isWebsocketUpgrade out.headers = true)) ∧
    ((¬∃ text uri client, AdmitsRedirect w mo settings m transport text uri client) →
      (proxyService w request).sent = [] ∧ (proxyService w request).jobs = []) := by
  have hmetadata := h.websocketMetadata_eq hmo
  refine ⟨hmetadata.trans (h.plainMetadata_eq hmo).symm, fun text uri client hadmits => ?_,
    fun hrefused => ?_⟩
  · have hadmits := (h.admitsWebsocket_iff hmo hclass).mpr ⟨text, hadmits⟩
    refine ⟨_, proxyService_of_admitsWebsocket hadmits, rfl, rfl,
      handshakeOn_websocketOutbound request transport uri client,
      h.sendsOwnHeaders hmo hkeeps (endToEndOnly_websocket hclass), fun htransport => ?_⟩
    subst htransport
    obtain ⟨hconnection, hupgrade⟩ := getAll_withUpgradePair_http1
      (request.headers.retain (keepsRequestHeader (connectionTokens request.headers)))
    exact isWebsocketUpgrade_of_pair hconnection hupgrade
  · rcases proxyService_cases w request with ⟨status, message, -, hcase⟩ |
      ⟨metadata, uri, client, hadmits⟩ | ⟨transport', metadata, uri, client, hadmits⟩
    · rw [hcase]
      exact ⟨rfl, rfl⟩
    · exact absurd hadmits.plain (by simp [hclass])
    · obtain rfl := UpgradeRequest.webSocket.inj (hclass.symm.trans hadmits.handshake)
      obtain rfl := Except.ok.inj (hadmits.metadataOk.symm.trans hmetadata)
      obtain ⟨text, hadmits⟩ := (h.admitsWebsocket_iff hmo hclass).mp hadmits
      exact absurd ⟨text, uri, client, hadmits⟩ hrefused

def socketMessage : SampleMessage where
  service := ⟨"up.example", 443, true⟩
  url := "wss://up.example/"
  version := "HTTP/1.1"
  fields := [("Connection", "Upgrade"), ("Upgrade", "websocket"), ("x-tlsplus-timeout", "0")]

def socketRequest : Request where
  method := .get
  version := .http11
  protocol := none
  headers := ⟨(withUpgradePair .empty .http1).entries ++
    (.xTlsplusTarget, .fromStatic "wss://up.example/") :: hostileRequest.headers.entries.drop 2⟩
  body := []
  onUpgrade := 5

theorem socketRequest_redirects : Redirects sampleKotlin sampleMontoya .empty
    (some ("127.0.0.1:43117" : Str)) socketMessage socketRequest where
  redirected := by decide
  delivered := by
    refine deliveredAll_of_fields ?_
    show List.Forall₂ _ ([("Connection", "Upgrade"), ("Upgrade", "websocket"),
      ("X-Tlsplus-Target", "wss://up.example/"), ("X-Tlsplus-Profile", "chrome_149"),
      ("X-Tlsplus-Timeout", "30")] : List (Str × Str)) _
    show List.Forall₂ _ _ ((.connection, .fromStatic "Upgrade") ::
      (.upgrade, .fromStatic "websocket") :: (.xTlsplusTarget, .fromStatic "wss://up.example/") ::
        hostileRequest.headers.entries.drop 2)
    simp only [hostileRequest, List.drop, List.forall₂_cons, List.Forall₂.nil, and_true]
    decide
  url := ⟨⟨by decide, by decide⟩, by decide⟩
  profile := ⟨⟨by decide, by decide⟩, by decide⟩

/-- A handshake for a `wss` URL is sent to the `https` one. -/
theorem redirect_handshake_secure :
    ∃ out, (proxyService (sampleWorld .timeout) socketRequest).sent = [out] ∧
      out.uri.scheme = some ("https" : Str) ∧ out.method = .get ∧ out.version = .http11 ∧
      isWebsocketUpgrade out.headers = true := by
  have hclass : classify socketRequest = .webSocket .http1 := by decide
  obtain ⟨-, hsent, -⟩ := redirect_handshake sampleMontoya_lawful sampleMontoya_keepsHeaders
    socketRequest_redirects hclass (sampleWorld .timeout)
  obtain ⟨out, heq, huri, -, hhandshake, -, hpair⟩ := hsent "https://up.example/" _ 1
    ⟨fun h2 => absurd h2 (by decide),
      ⟨"wss", "up.example/", splitOnce_eq_some_iff.mp (by decide),
        Or.inr ⟨Or.inr (by decide), rfl⟩⟩, rfl, rfl, by decide⟩
  obtain ⟨hmethod, hversion, -⟩ := hhandshake.http1 rfl
  exact ⟨out, by rw [heq], by rw [huri], hmethod, hversion, hpair rfl⟩

end TlsPlus
