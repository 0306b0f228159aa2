/-
What the service function can do with a request.

`proxyService` leaves through many exits, and every result about it would have to
walk through them again.  This file walks through them once.  A request is refused
with nothing sent and nothing queued, or it is admitted to one of the two paths,
and then what happened is an equation (`proxyService_cases`).  Admission is a
property of the request and of the world alone, so the equations can also be used
in the other direction.
-/
import TlsPlus.Proxy.Service

namespace TlsPlus

open Text

variable {Client : Type} {w : World Client} {request : Request}

/-! ### Refusals of the metadata readers -/

theorem plainTarget_error {h : HeaderMap} {refusal : Response}
    (he : plainTarget h = .error refusal) :
    ∃ message, refusal = errorResponse .badRequest message := by
  unfold plainTarget at he
  split at he
  · split at he
    · cases he
    · exact ⟨_, (Except.error.inj he).symm⟩
  · exact ⟨_, (Except.error.inj he).symm⟩
  · exact ⟨_, (Except.error.inj he).symm⟩

theorem plainProfile_error {h : HeaderMap} {refusal : Response}
    (he : plainProfile h = .error refusal) :
    ∃ message, refusal = errorResponse .badRequest message := by
  unfold plainProfile at he
  split at he
  · cases he
  · cases he
  · exact ⟨_, (Except.error.inj he).symm⟩

theorem plainTimeoutSecs_error {h : HeaderMap} {refusal : Response}
    (he : plainTimeoutSecs h = .error refusal) :
    ∃ message, refusal = errorResponse .badRequest message := by
  unfold plainTimeoutSecs at he
  split at he
  · split at he
    · cases he
    · exact ⟨_, (Except.error.inj he).symm⟩
  · cases he
  · exact ⟨_, (Except.error.inj he).symm⟩

/-- Metadata that cannot be read is a bad request. -/
theorem plainMetadata_error {h : HeaderMap} {refusal : Response}
    (he : plainMetadata h = .error refusal) :
    ∃ message, refusal = errorResponse .badRequest message := by
  unfold plainMetadata at he
  cases ht : plainTarget h with
  | error r =>
      rw [ht] at he
      exact plainTarget_error (ht.trans (congrArg _ (Except.error.inj he)))
  | ok target =>
      cases hp : plainProfile h with
      | error r =>
          rw [ht, hp] at he
          exact plainProfile_error (hp.trans (congrArg _ (Except.error.inj he)))
      | ok profile =>
          cases ho : plainTimeoutSecs h with
          | error r =>
              rw [ht, hp, ho] at he
              exact plainTimeoutSecs_error (ho.trans (congrArg _ (Except.error.inj he)))
          | ok secs =>
              rw [ht, hp, ho] at he
              cases he

theorem plainUri_error {target : Str} {refusal : Response}
    (he : plainUri w target = .error refusal) :
    ∃ message, refusal = errorResponse .badRequest message := by
  unfold plainUri at he
  split at he
  · split at he
    · cases he
    · exact ⟨_, (Except.error.inj he).symm⟩
  · exact ⟨_, (Except.error.inj he).symm⟩

theorem websocketMetadata_error {h : HeaderMap} {refusal : Response}
    (he : websocketMetadata h = .error refusal) :
    ∃ message, refusal = errorResponse .badRequest message := by
  simp only [websocketMetadata] at he
  split at he
  · exact ⟨_, (Except.error.inj he).symm⟩
  · cases he

/-! ### Admission -/

/-- The version a request's marker declares, if it has a valid one. -/
def declaredVersion (request : Request) : Option Version :=
  if declaredHttpVersion request.headers = .http2 then some .http2 else none

/-- The version guard: a valid marker, and for tunnels one that matches the wire. -/
structure PassesVersionGuard (request : Request) : Prop where
  valid : declaredHttpVersion request.headers ≠ .invalid
  tunnel : request.method = .connect ∨ classify request ≠ .none →
    ∀ version, declaredVersion request = some version → version = request.version

/-- The checks a plain request passes before it is sent. -/
structure AdmitsPlain (w : World Client) (request : Request) (metadata : Metadata) (uri : Uri)
    (client : Client) : Prop where
  guard : PassesVersionGuard request
  plain : classify request = .none
  metadataOk : plainMetadata request.headers = .ok metadata
  uriOk : plainUri w metadata.target = .ok uri
  clientOk : w.getWreqClient metadata.profile = .ok client

/-- The checks a handshake passes before it is sent. -/
structure AdmitsWebsocket (w : World Client) (request : Request) (transport : WebSocketTransport)
    (metadata : Metadata) (uri : Uri) (client : Client) : Prop where
  guard : PassesVersionGuard request
  handshake : classify request = .webSocket transport
  metadataOk : websocketMetadata request.headers = .ok metadata
  uriOk : normalizeTarget w.parseUri metadata.target = .ok uri
  clientOk : w.getWreqClient metadata.profile = .ok client
  deadlineOk : w.deadlineInRange metadata.timeoutSecs = true

/-- The request a plain request becomes. -/
def plainOutbound (request : Request) (uri : Uri) (client : Client) : OutboundRequest Client where
  client := client
  method := request.method
  uri := uri
  version := outboundHttpVersion (declaredVersion request) request.version
  protocol := none
  headers := plainHeaders request.headers
  body := request.body

/-- The request a handshake becomes. -/
def websocketOutbound (request : Request) (transport : WebSocketTransport) (uri : Uri)
    (client : Client) : OutboundRequest Client :=
  Outbound.send client transport uri (requestHeaders request.headers transport)

/-- Behind a valid marker the service function is the dispatch on it. -/
theorem proxyService_of_valid (hvalid : declaredHttpVersion request.headers ≠ .invalid) :
    proxyService w request = dispatch w request (declaredVersion request) := by
  unfold proxyService declaredVersion
  cases hmarker : declaredHttpVersion request.headers with
  | absent => rfl
  | http2 => rfl
  | invalid => exact absurd hmarker hvalid

theorem dispatch_of_guard (hguard : PassesVersionGuard request) :
    dispatch w request (declaredVersion request) = match classify request with
      | .webSocket transport => websocketProxy w request transport
      | .invalid => .refused (errorResponse .badRequest "Invalid WebSocket upgrade request")
      | .none => forwardPlain w request (declaredVersion request) := by
  have hpass : ¬((request.method = .connect ∨ classify request ≠ .none) ∧
      (declaredVersion request).any (· ≠ request.version) = true) := by
    rintro ⟨htunnel, hany⟩
    cases hdeclared : declaredVersion request with
    | none => simp [hdeclared] at hany
    | some version =>
        have hne : version ≠ request.version := by simpa [hdeclared] using hany
        exact hne (hguard.tunnel htunnel version hdeclared)
  unfold dispatch
  exact if_neg hpass

/-- A request that does not pass the guard is a bad request. -/
theorem proxyService_of_not_guard (hguard : ¬PassesVersionGuard request) :
    ∃ message, proxyService w request = .refused (errorResponse .badRequest message) := by
  by_cases hvalid : declaredHttpVersion request.headers = .invalid
  · unfold proxyService
    rw [hvalid]
    exact ⟨_, rfl⟩
  · rw [proxyService_of_valid hvalid]
    unfold dispatch
    by_cases hfail : (request.method = .connect ∨ classify request ≠ .none) ∧
        (declaredVersion request).any (· ≠ request.version) = true
    · exact ⟨_, if_pos hfail⟩
    · refine absurd ⟨hvalid, fun htunnel version hversion => ?_⟩ hguard
      by_contra hne
      exact hfail ⟨htunnel, by simpa [hversion] using hne⟩

/-! ### What happens to an admitted request -/

theorem proxyService_of_admitsPlain {metadata : Metadata} {uri : Uri} {client : Client}
    (h : AdmitsPlain w request metadata uri client) :
    proxyService w request =
      { response := plainAnswer w metadata
        sent := [plainOutbound request uri client]
        jobs := [] } := by
  rw [proxyService_of_valid h.guard.valid, dispatch_of_guard h.guard, h.plain]
  simp only [forwardPlain, h.metadataOk, h.uriOk, h.clientOk]
  rfl

theorem proxyService_of_admitsWebsocket {transport : WebSocketTransport} {metadata : Metadata}
    {uri : Uri} {client : Client} (h : AdmitsWebsocket w request transport metadata uri client) :
    proxyService w request =
      { response := (websocketAnswer w request transport metadata).1
        sent := [websocketOutbound request transport uri client]
        jobs := (websocketAnswer w request transport metadata).2 } := by
  rw [proxyService_of_valid h.guard.valid, dispatch_of_guard h.guard, h.handshake]
  simp only [websocketProxy, h.metadataOk, h.uriOk, h.clientOk, h.deadlineOk]
  rfl

/-! ### The exits -/

theorem forwardPlain_cases (hguard : PassesVersionGuard request)
    (hplain : classify request = .none) :
    (∃ status message, (status = .badRequest ∨ status = .badGateway) ∧
      forwardPlain w request (declaredVersion request)
        = .refused (errorResponse status message)) ∨
    ∃ metadata uri client, AdmitsPlain w request metadata uri client := by
  unfold forwardPlain
  cases hm : plainMetadata request.headers with
  | error refusal =>
      obtain ⟨message, rfl⟩ := plainMetadata_error hm
      exact Or.inl ⟨_, message, Or.inl rfl, rfl⟩
  | ok metadata =>
      cases hu : plainUri w metadata.target with
      | error refusal =>
          obtain ⟨message, rfl⟩ := plainUri_error hu
          exact Or.inl ⟨_, message, Or.inl rfl, by simp only [hu]⟩
      | ok uri =>
          cases hc : w.getWreqClient metadata.profile with
          | error e => exact Or.inl ⟨_, e, Or.inr rfl, by simp only [hu, hc]⟩
          | ok client => exact Or.inr ⟨metadata, uri, client, hguard, hplain, hm, hu, hc⟩

theorem websocketProxy_cases {transport : WebSocketTransport}
    (hguard : PassesVersionGuard request) (hhandshake : classify request = .webSocket transport) :
    (∃ status message, (status = .badRequest ∨ status = .badGateway) ∧
      websocketProxy w request transport = .refused (errorResponse status message)) ∨
    ∃ metadata uri client, AdmitsWebsocket w request transport metadata uri client := by
  unfold websocketProxy
  cases hm : websocketMetadata request.headers with
  | error refusal =>
      obtain ⟨message, rfl⟩ := websocketMetadata_error hm
      exact Or.inl ⟨_, message, Or.inl rfl, rfl⟩
  | ok metadata =>
      cases hu : normalizeTarget w.parseUri metadata.target with
      | error e => exact Or.inl ⟨_, e, Or.inl rfl, by simp only [hu]⟩
      | ok uri =>
          cases hc : w.getWreqClient metadata.profile with
          | error e => exact Or.inl ⟨_, e, Or.inr rfl, by simp only [hu, hc]⟩
          | ok client =>
              cases hd : w.deadlineInRange metadata.timeoutSecs with
              | false => exact Or.inl ⟨_, _, Or.inl rfl, by simp only [hu, hc, hd]; rfl⟩
              | true =>
                  exact Or.inr ⟨metadata, uri, client, hguard, hhandshake, hm, hu, hc, hd⟩

/-- **A request is refused outright or admitted to one of the two paths.** -/
theorem proxyService_cases (w : World Client) (request : Request) :
    (∃ status message, (status = .badRequest ∨ status = .badGateway) ∧
      proxyService w request = .refused (errorResponse status message)) ∨
    (∃ metadata uri client, AdmitsPlain w request metadata uri client) ∨
    ∃ transport metadata uri client, AdmitsWebsocket w request transport metadata uri client := by
  by_cases hguard : PassesVersionGuard request
  · rw [proxyService_of_valid hguard.valid, dispatch_of_guard hguard]
    cases hclass : classify request with
    | none =>
        rcases forwardPlain_cases hguard hclass with hrefused | hadmits
        · exact Or.inl hrefused
        · exact Or.inr (Or.inl hadmits)
    | invalid => exact Or.inl ⟨_, _, Or.inl rfl, rfl⟩
    | webSocket transport =>
        rcases websocketProxy_cases hguard hclass with hrefused | hadmits
        · exact Or.inl hrefused
        · exact Or.inr (Or.inr ⟨transport, hadmits⟩)
  · obtain ⟨message, hrefused⟩ := proxyService_of_not_guard (w := w) hguard
    exact Or.inl ⟨_, message, Or.inl rfl, hrefused⟩

/-- **What is sent is what an admitted request becomes.** -/
theorem mem_sent {out : OutboundRequest Client} (h : out ∈ (proxyService w request).sent) :
    (∃ metadata uri client, AdmitsPlain w request metadata uri client ∧
      out = plainOutbound request uri client) ∨
    ∃ transport metadata uri client, AdmitsWebsocket w request transport metadata uri client ∧
      out = websocketOutbound request transport uri client := by
  rcases proxyService_cases w request with ⟨status, message, -, hrefused⟩ |
    ⟨metadata, uri, client, hadmits⟩ | ⟨transport, metadata, uri, client, hadmits⟩
  · rw [hrefused] at h
    cases h
  · rw [proxyService_of_admitsPlain hadmits] at h
    exact Or.inl ⟨metadata, uri, client, hadmits, by simpa using h⟩
  · rw [proxyService_of_admitsWebsocket hadmits] at h
    exact Or.inr ⟨transport, metadata, uri, client, hadmits, by simpa using h⟩

/-! ### A world to run in

One upstream, `up.example`, which the URL parser knows under both of its schemes, and
profiles that all resolve to client 1.  The clock ends at 2^63 seconds and has run for a
while.
-/

def sampleParseUri (target : Str) : Except Str Uri :=
  if target = "http://up.example/" then
    .ok ⟨some "http", some "up.example", some "up.example", none, "/", none⟩
  else if target = "https://up.example/" then
    .ok ⟨some "https", some "up.example", some "up.example", none, "/", none⟩
  else .error "invalid uri character"

def sampleWorld (send : SendOutcome) : World Nat where
  parseUri := sampleParseUri
  getWreqClient _ := .ok 1
  deadlineInRange secs := secs ≤ 9000000000000000000
  send := send
  upgrade := .upgraded 9
  bridgeOpen := true

/-- A request whose headers are its target and the given fields. -/
def sampleRequest (method : Method) (version : Version)
    (fields : List (HeaderName × HeaderValue)) : Request where
  method := method
  version := version
  protocol := none
  headers := .collect ((.xTlsplusTarget, .fromStatic "http://up.example/") :: fields)
  body := []
  onUpgrade := 5

/-- An HTTP/1.1 WebSocket handshake. -/
def sampleHandshake : Request :=
  sampleRequest .get .http11
    [(.connection, .fromStatic "keep-alive, Upgrade"), (.upgrade, .fromStatic "WebSocket")]

end TlsPlus
