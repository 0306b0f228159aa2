/-
The proxy never changes a request's protocol silently.

The outbound version is settled in three places: by the marker's reader, by the
guard that runs before the dispatch, and by the table of the handshake sender.
They agree because a request only becomes a handshake with the version of its
transport, and the guard lets a marker through to a tunnel only if it names that
version too.

The marker's own meaning is stated here on the header multimap, without the
reader: `CarriesMarker`, `MarkerInvalid`.
-/
import TlsPlus.Proofs.Proxy.Service
import TlsPlus.Proofs.Proxy.Websocket

namespace TlsPlus

open Text

variable {Client : Type} {w : World Client} {request : Request}

/-! ### The marker -/

def CarriesMarker (request : Request) : Prop :=
  request.headers.getAll .xTlsplusHttpVersion ≠ []

/-- A marker that is duplicated, or has a value that is not text, or not `HTTP/2`. -/
def MarkerInvalid (request : Request) : Prop :=
  2 ≤ (request.headers.getAll .xTlsplusHttpVersion).length ∨
    ∃ value ∈ request.headers.getAll .xTlsplusHttpVersion, ∀ text, value.toStr = some text →
      eqIgnoreAsciiCase text "HTTP/2" = false

/-- The three readings of the marker. -/
theorem declaredHttpVersion_cases (request : Request) :
    (declaredHttpVersion request.headers = .absent ∧ ¬CarriesMarker request ∧
      ¬MarkerInvalid request) ∨
    (declaredHttpVersion request.headers = .http2 ∧ CarriesMarker request ∧
      ¬MarkerInvalid request) ∨
    (declaredHttpVersion request.headers = .invalid ∧ CarriesMarker request ∧
      MarkerInvalid request) := by
  unfold declaredHttpVersion CarriesMarker MarkerInvalid
  match request.headers.getAll .xTlsplusHttpVersion with
  | [] => exact Or.inl ⟨rfl, by simp, by simp⟩
  | [value] =>
      cases htext : value.toStr with
      | none =>
          have hinvalid : ∀ text, value.toStr = some text →
              eqIgnoreAsciiCase text "HTTP/2" = false := by simp [htext]
          exact Or.inr (Or.inr ⟨by simp only [htext], by simp, Or.inr ⟨value, by simp, hinvalid⟩⟩)
      | some version =>
          by_cases hversion : eqIgnoreAsciiCase version "HTTP/2" = true
          · refine Or.inr (Or.inl ⟨by simp only [htext, if_pos hversion], by simp, ?_⟩)
            rintro (hlength | ⟨other, hmem, hinvalid⟩)
            · exact absurd hlength (by simp)
            · have hother : other = value := by simpa using hmem
              have hfalse := hinvalid version (hother ▸ htext)
              rw [hversion] at hfalse
              exact absurd hfalse (by simp)
          · have hinvalid : ∀ text, value.toStr = some text →
                eqIgnoreAsciiCase text "HTTP/2" = false := by
              intro text hsome
              rw [htext, Option.some.injEq] at hsome
              exact hsome ▸ Bool.eq_false_iff.mpr hversion
            exact Or.inr (Or.inr ⟨by simp only [htext, if_neg hversion], by simp,
              Or.inr ⟨value, by simp, hinvalid⟩⟩)
  | _ :: _ :: _ => exact Or.inr (Or.inr ⟨rfl, by simp, Or.inl (by simp)⟩)

/-- A valid marker is read as HTTP/2, and no marker as no declaration. -/
theorem declaredVersion_of_valid (h : declaredHttpVersion request.headers ≠ .invalid) :
    (CarriesMarker request → declaredVersion request = some .http2) ∧
      (¬CarriesMarker request → declaredVersion request = none) := by
  unfold declaredVersion
  rcases declaredHttpVersion_cases request with ⟨hread, hmarker, -⟩ | ⟨hread, hmarker, -⟩ |
    ⟨hread, -, -⟩
  · rw [hread]
    exact ⟨fun hm => absurd hm hmarker, fun _ => rfl⟩
  · rw [hread]
    exact ⟨fun _ => rfl, fun hm => absurd hmarker hm⟩
  · exact absurd hread h

/-! ### Which requests are tunnels -/

/-- The request asks for an upgrade, well formed or not: by a `:protocol`, or by a token in
`Connection` or `Upgrade`. -/
def AsksUpgrade (request : Request) : Prop :=
  request.protocol.isSome ∨ containsToken request.headers .connection "upgrade" = true ∨
    containsToken request.headers .upgrade "websocket" = true

theorem classify_ne_none_iff (request : Request) :
    classify request ≠ .none ↔ AsksUpgrade request := by
  unfold classify AsksUpgrade
  cases request.protocol with
  | some protocol =>
      simp only [Option.isSome_some, true_or, iff_true]
      split <;> simp
  | none =>
      have hasks : (none : Option Str).isSome = true ↔ False := by simp
      rw [hasks, false_or]
      cases hc : containsToken request.headers .connection "upgrade" with
      | true =>
          simp only [Bool.not_true, Bool.false_and, Bool.false_eq_true, if_false, true_or, iff_true]
          split <;> simp
      | false =>
          cases hu : containsToken request.headers .upgrade "websocket" <;> simp

/-- A request that becomes a stream of its own: a CONNECT, or a WebSocket handshake. -/
def OpensTunnel (request : Request) : Prop :=
  request.method = .connect ∨ ∃ transport, classify request = .webSocket transport

/-! ### The law of the outbound version -/

/-- The version a request is sent with is the one it was marked with or came with, and for
tunnels these are one and the same. -/
structure ProtocolKept (request : Request) (out : OutboundRequest Client) : Prop where
  marked : CarriesMarker request → out.version = .http2
  unmarked : ¬CarriesMarker request → out.version = request.version
  tunnel : OpensTunnel request →
    out.version = request.version ∧ (CarriesMarker request → request.version = .http2)

/-- Past the guard a marked tunnel has HTTP/2 on the wire. -/
theorem version_of_marked_tunnel (hguard : PassesVersionGuard request)
    (htunnel : request.method = .connect ∨ classify request ≠ .none)
    (hmarker : CarriesMarker request) : request.version = .http2 := by
  have hdeclared := (declaredVersion_of_valid hguard.valid).1 hmarker
  exact (hguard.tunnel htunnel .http2 hdeclared).symm

theorem protocolKept_plain {metadata : Metadata} {uri : Uri} {client : Client}
    (h : AdmitsPlain w request metadata uri client) :
    ProtocolKept request (plainOutbound request uri client) := by
  have hread := declaredVersion_of_valid h.guard.valid
  have hmarked : CarriesMarker request →
      (plainOutbound request uri client).version = .http2 := by
    intro hm
    simp [plainOutbound, outboundHttpVersion, hread.1 hm]
  have hunmarked : ¬CarriesMarker request →
      (plainOutbound request uri client).version = request.version := by
    intro hm
    simp [plainOutbound, outboundHttpVersion, hread.2 hm]
  refine ⟨hmarked, hunmarked, fun htunnel => ?_⟩
  have hconnect : request.method = .connect := by
    rcases htunnel with hconnect | ⟨transport, hclass⟩
    · exact hconnect
    · rw [h.plain] at hclass
      exact absurd hclass (by simp)
  have hwire := version_of_marked_tunnel h.guard (Or.inl hconnect)
  refine ⟨?_, hwire⟩
  by_cases hm : CarriesMarker request
  · rw [hmarked hm, hwire hm]
  · exact hunmarked hm

/-- A handshake is sent with the version it came with. -/
theorem websocketOutbound_version {transport : WebSocketTransport}
    (h : classify request = .webSocket transport) (uri : Uri) (client : Client) :
    (websocketOutbound request transport uri client).version = request.version := by
  cases transport with
  | http1 => exact (classify_http1 h).2.1.symm
  | http2 => exact (classify_http2 h).2.1.symm

theorem protocolKept_websocket {transport : WebSocketTransport} {metadata : Metadata} {uri : Uri}
    {client : Client} (h : AdmitsWebsocket w request transport metadata uri client) :
    ProtocolKept request (websocketOutbound request transport uri client) := by
  have hversion := websocketOutbound_version h.handshake uri client
  have hwire := version_of_marked_tunnel h.guard (Or.inr (by simp [h.handshake]))
  exact ⟨fun hm => hversion.trans (hwire hm), fun _ => hversion, fun _ => ⟨hversion, hwire⟩⟩

/-! ### Refusals -/

theorem not_guard_of_markerInvalid (h : MarkerInvalid request) :
    ¬PassesVersionGuard request := by
  intro hguard
  rcases declaredHttpVersion_cases request with ⟨-, -, hvalid⟩ | ⟨-, -, hvalid⟩ | ⟨hread, -, -⟩
  · exact hvalid h
  · exact hvalid h
  · exact hguard.valid hread

theorem not_guard_of_mismatch (hmarker : CarriesMarker request)
    (htunnel : request.method = .connect ∨ AsksUpgrade request)
    (hversion : request.version ≠ .http2) : ¬PassesVersionGuard request := by
  intro hguard
  rw [← classify_ne_none_iff] at htunnel
  exact hversion (version_of_marked_tunnel hguard htunnel hmarker)

/-- **No silent protocol change.**  Whatever is sent upstream keeps the protocol; a request
with an invalid marker, and a CONNECT or upgrade request whose marker is not the wire version,
is answered 400 with nothing sent. -/
theorem protocol_kept (w : World Client) (request : Request) :
    (∀ out ∈ (proxyService w request).sent, ProtocolKept request out) ∧
    (MarkerInvalid request ∨ (CarriesMarker request ∧
        (request.method = .connect ∨ AsksUpgrade request) ∧ request.version ≠ .http2) →
      (proxyService w request).response.status = .badRequest ∧
        (proxyService w request).sent = []) := by
  refine ⟨fun out hout => ?_, fun hbad => ?_⟩
  · rcases mem_sent hout with ⟨metadata, uri, client, hadmits, rfl⟩ |
      ⟨transport, metadata, uri, client, hadmits, rfl⟩
    · exact protocolKept_plain hadmits
    · exact protocolKept_websocket hadmits
  · have hguard : ¬PassesVersionGuard request := by
      rcases hbad with hinvalid | ⟨hmarker, htunnel, hversion⟩
      · exact not_guard_of_markerInvalid hinvalid
      · exact not_guard_of_mismatch hmarker htunnel hversion
    obtain ⟨message, hrefused⟩ := proxyService_of_not_guard (w := w) hguard
    rw [hrefused]
    exact ⟨rfl, rfl⟩

/-- A plain request that came over HTTP/1.1 with the marker is sent over HTTP/2. -/
theorem protocol_kept_upgraded :
    let request := sampleRequest .post .http11 [(.xTlsplusHttpVersion, .fromStatic "http/2")]
    ∃ out ∈ (proxyService (sampleWorld .timeout) request).sent,
      out.version = .http2 ∧ ProtocolKept request out := by
  intro request
  have hsent : ∃ out ∈ (proxyService (sampleWorld .timeout) request).sent,
      out.version = .http2 := by decide
  obtain ⟨out, hout, hversion⟩ := hsent
  exact ⟨out, hout, hversion, (protocol_kept (sampleWorld .timeout) request).1 out hout⟩

end TlsPlus
