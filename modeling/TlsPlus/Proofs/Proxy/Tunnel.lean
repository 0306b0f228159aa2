/-
A tunnel is announced exactly when it was queued.

The proxy announces a tunnel by answering 101, or by answering an Extended CONNECT
with a success status.  When it bridges, it also queues the job that joins the two
streams, and queues nothing otherwise.  What remains are the responses it relays:
the plain path relays whatever the upstream sends, and a handshake response that
`is_success` turns away is relayed as it stands, its status included.  A relayed
response that itself announces a tunnel is a tunnel with nothing behind it.

`UnbridgedSwitch` is that case, and `tunnel_honest_iff` says it is the only one.
-/
import TlsPlus.Proofs.Proxy.Service
import TlsPlus.Proofs.Proxy.Websocket

namespace TlsPlus

open Text

variable {Client : Type} {w : World Client} {request : Request}

/-- The response tells the client that its stream is a tunnel from here on. -/
def SwitchesProtocol (request : Request) (response : Response) : Prop :=
  response.status = .switchingProtocols ∨
    request.method = .connect ∧ request.version = .http2 ∧
      request.protocol = some ("websocket" : Str) ∧ response.status.isSuccess = true

/-- A tunnel is announced exactly when the one job that joins this request's stream to the
upgraded upstream was queued, and nothing is queued otherwise. -/
def TunnelHonest (w : World Client) (request : Request) : Prop :=
  (SwitchesProtocol request (proxyService w request).response ↔
    ∃ stream, w.upgrade = .upgraded stream ∧
      (proxyService w request).jobs = [⟨request.onUpgrade, stream⟩]) ∧
  (¬SwitchesProtocol request (proxyService w request).response →
    (proxyService w request).jobs = [])

/-- A request that passes every check is sent upstream. -/
def Admitted (w : World Client) (request : Request) : Prop :=
  (∃ metadata uri client, AdmitsPlain w request metadata uri client) ∨
    ∃ transport metadata uri client, AdmitsWebsocket w request transport metadata uri client

/-- An upstream response that announces a tunnel, but not of the kind that is bridged. -/
def UnbridgedSwitch (request : Request) (response : UpstreamResponse) : Prop :=
  match classify request with
  | .none => response.status = .switchingProtocols
  | .invalid => False
  | .webSocket .http1 => response.status = .switchingProtocols ∧ response.version ≠ .http11
  | .webSocket .http2 => response.status = .switchingProtocols ∨
      response.status.isSuccess = true ∧ response.version ≠ .http2

/-! ### Which responses announce a tunnel -/

/-- The proxy's own errors do not. -/
theorem not_switches_errorResponse {status : StatusCode} {message : Str}
    (h : 400 ≤ status.code) : ¬SwitchesProtocol request (errorResponse status message) := by
  rintro (hswitch | ⟨-, -, -, hsuccess⟩)
  · have hcode : status.code = 101 := congrArg StatusCode.code hswitch
    omega
  · have hcode := (StatusCode.isSuccess_iff.mp hsuccess).2
    exact absurd (Nat.lt_of_le_of_lt h hcode) (by decide)

/-- Off the Extended CONNECT path only 101 does. -/
theorem switches_iff_of_protocol (hprotocol : request.protocol = none) (response : Response) :
    SwitchesProtocol request response ↔ response.status = .switchingProtocols := by
  simp [SwitchesProtocol, hprotocol]

theorem switches_iff_of_http2 (h : classify request = .webSocket .http2) (response : Response) :
    SwitchesProtocol request response ↔
      response.status = .switchingProtocols ∨ response.status.isSuccess = true := by
  obtain ⟨hmethod, hversion, hprotocol⟩ := classify_http2 h
  simp only [SwitchesProtocol, hmethod, hversion, hprotocol, true_and]

/-- An upstream response that the handshake test accepts announces a tunnel. -/
theorem switches_of_isSuccess {transport : WebSocketTransport} {response : UpstreamResponse}
    {answer : Response} (h : classify request = .webSocket transport)
    (hsuccess : Outbound.isSuccess response transport = true)
    (hstatus : answer.status = response.status) : SwitchesProtocol request answer := by
  cases transport with
  | http1 =>
      simp only [Outbound.isSuccess, Bool.and_eq_true, decide_eq_true_eq] at hsuccess
      exact Or.inl (hstatus.trans hsuccess.2)
  | http2 =>
      simp only [Outbound.isSuccess, Bool.and_eq_true, decide_eq_true_eq] at hsuccess
      exact (switches_iff_of_http2 h answer).mpr (Or.inr (hstatus ▸ hsuccess.2))

/-- One that it turns away announces a tunnel exactly in the unbridged case. -/
theorem switches_relayed_iff {transport : WebSocketTransport} {response : UpstreamResponse}
    (h : classify request = .webSocket transport)
    (hsuccess : Outbound.isSuccess response transport = false) :
    SwitchesProtocol request (convertResponse response) ↔ UnbridgedSwitch request response := by
  unfold UnbridgedSwitch
  rw [h]
  cases transport with
  | http1 =>
      rw [switches_iff_of_protocol (classify_http1 h).2.2.1]
      simp only [Outbound.isSuccess, Bool.and_eq_false_iff, decide_eq_false_iff_not] at hsuccess
      change response.status = .switchingProtocols ↔ _
      exact ⟨fun hs => ⟨hs, hsuccess.resolve_right fun hn => hn hs⟩, And.left⟩
  | http2 =>
      rw [switches_iff_of_http2 h]
      simp only [Outbound.isSuccess, Bool.and_eq_false_iff, decide_eq_false_iff_not] at hsuccess
      change (response.status = .switchingProtocols ∨ response.status.isSuccess = true) ↔ _
      refine or_congr_right ⟨fun hs => ⟨hs, ?_⟩, And.left⟩
      exact hsuccess.resolve_right fun hn => by simp [hn] at hs

theorem not_unbridged_of_isSuccess {transport : WebSocketTransport}
    {response : UpstreamResponse} (h : classify request = .webSocket transport)
    (hsuccess : Outbound.isSuccess response transport = true) :
    ¬UnbridgedSwitch request response := by
  unfold UnbridgedSwitch
  rw [h]
  cases transport with
  | http1 =>
      simp only [Outbound.isSuccess, Bool.and_eq_true, decide_eq_true_eq] at hsuccess
      exact fun hswitch => hswitch.2 hsuccess.1
  | http2 =>
      simp only [Outbound.isSuccess, Bool.and_eq_true, decide_eq_true_eq] at hsuccess
      rintro (hswitch | ⟨-, hversion⟩)
      · rw [hswitch] at hsuccess
        exact absurd hsuccess.2 (by decide)
      · exact hversion hsuccess.1

/-! ### The three fates of a request -/

theorem honest_of_quiet (hswitch : ¬SwitchesProtocol request (proxyService w request).response)
    (hjobs : (proxyService w request).jobs = []) : TunnelHonest w request := by
  refine ⟨⟨fun h => absurd h hswitch, ?_⟩, fun _ => hjobs⟩
  rintro ⟨stream, -, hqueued⟩
  rw [hjobs] at hqueued
  cases hqueued

theorem not_honest_of_unbridged
    (hswitch : SwitchesProtocol request (proxyService w request).response)
    (hjobs : (proxyService w request).jobs = []) : ¬TunnelHonest w request := by
  intro honest
  obtain ⟨stream, -, hqueued⟩ := honest.1.mp hswitch
  rw [hjobs] at hqueued
  cases hqueued

theorem not_admitted_of_refused {response : Response}
    (h : proxyService w request = .refused response) : ¬Admitted w request := by
  rintro (⟨metadata, uri, client, hadmits⟩ | ⟨transport, metadata, uri, client, hadmits⟩)
  · rw [proxyService_of_admitsPlain hadmits] at h
    cases h
  · rw [proxyService_of_admitsWebsocket hadmits] at h
    cases h

theorem honest_iff_of_plain {metadata : Metadata} {uri : Uri} {client : Client}
    (h : AdmitsPlain w request metadata uri client) :
    TunnelHonest w request ↔ ∀ response, w.send = .response response →
      ¬UnbridgedSwitch request response := by
  have hservice := proxyService_of_admitsPlain h
  have hjobs : (proxyService w request).jobs = [] := by rw [hservice]
  have hprotocol := classify_none h.plain
  have hanswer : (proxyService w request).response = plainAnswer w metadata := by rw [hservice]
  cases hsend : w.send with
  | response response =>
      have hrelayed : SwitchesProtocol request (proxyService w request).response ↔
          UnbridgedSwitch request response := by
        rw [hanswer, switches_iff_of_protocol hprotocol]
        unfold UnbridgedSwitch plainAnswer
        rw [h.plain, hsend]
        rfl
      constructor
      · intro honest r hr hswitch
        cases hr
        exact not_honest_of_unbridged (hrelayed.mpr hswitch) hjobs honest
      · intro hquiet
        exact honest_of_quiet (fun hs => hquiet response rfl (hrelayed.mp hs)) hjobs
  | error e =>
      refine ⟨fun _ r hr => (by cases hr), fun _ => honest_of_quiet ?_ hjobs⟩
      rw [hanswer]
      unfold plainAnswer
      rw [hsend]
      exact not_switches_errorResponse (by decide)
  | timeout =>
      refine ⟨fun _ r hr => (by cases hr), fun _ => honest_of_quiet ?_ hjobs⟩
      rw [hanswer]
      unfold plainAnswer
      rw [hsend]
      exact not_switches_errorResponse (by decide)

theorem honest_iff_of_websocket {transport : WebSocketTransport} {metadata : Metadata}
    {uri : Uri} {client : Client} (h : AdmitsWebsocket w request transport metadata uri client) :
    TunnelHonest w request ↔ ∀ response, w.send = .response response →
      ¬UnbridgedSwitch request response := by
  have hservice := proxyService_of_admitsWebsocket h
  rcases websocketAnswer_cases w request transport metadata with
    ⟨response, stream, hsend, hsuccess, hupgrade, hanswer⟩ |
    ⟨response, hsend, hsuccess, hanswer⟩ | ⟨status, message, hstatus, hall, hanswer⟩
  · -- bridged: the job is there, and an accepted response is not an unbridged one
    rw [hanswer] at hservice
    have hswitch : SwitchesProtocol request (proxyService w request).response := by
      rw [hservice]
      exact switches_of_isSuccess h.handshake hsuccess rfl
    refine ⟨fun _ r hr => ?_, fun _ => ⟨⟨fun _ => ⟨stream, hupgrade, by rw [hservice]⟩,
      fun _ => hswitch⟩, fun hn => absurd hswitch hn⟩⟩
    rw [hsend] at hr
    cases hr
    exact not_unbridged_of_isSuccess h.handshake hsuccess
  · -- relayed: no job, so everything hangs on the status
    rw [hanswer] at hservice
    have hjobs : (proxyService w request).jobs = [] := by rw [hservice]
    have hrelayed : SwitchesProtocol request (proxyService w request).response ↔
        UnbridgedSwitch request response := by
      rw [hservice]
      exact switches_relayed_iff h.handshake hsuccess
    constructor
    · intro honest r hr hswitch
      rw [hsend] at hr
      cases hr
      exact not_honest_of_unbridged (hrelayed.mpr hswitch) hjobs honest
    · intro hquiet
      exact honest_of_quiet (fun hs => hquiet response hsend (hrelayed.mp hs)) hjobs
  · -- an error of the proxy's own: quiet, and no response was turned away
    rw [hanswer] at hservice
    refine ⟨fun _ r hr => not_unbridged_of_isSuccess h.handshake (hall r hr), fun _ =>
      honest_of_quiet ?_ (by rw [hservice])⟩
    rw [hservice]
    refine not_switches_errorResponse ?_
    rcases hstatus with rfl | rfl | rfl <;> decide

/-- **A tunnel is announced exactly when it was queued, unless the upstream's response is
relayed and itself announces one.** -/
theorem tunnel_honest_iff (w : World Client) (request : Request) :
    TunnelHonest w request ↔
      (Admitted w request → ∀ response, w.send = .response response →
        ¬UnbridgedSwitch request response) := by
  rcases proxyService_cases w request with ⟨status, message, hstatus, hrefused⟩ |
    ⟨metadata, uri, client, h⟩ | ⟨transport, metadata, uri, client, h⟩
  · have hnot := not_admitted_of_refused hrefused
    refine ⟨fun _ hadmitted => absurd hadmitted hnot, fun _ => honest_of_quiet ?_ ?_⟩
    · rw [hrefused]
      refine not_switches_errorResponse ?_
      rcases hstatus with rfl | rfl <;> decide
    · rw [hrefused]
      rfl
  · have hadmitted : Admitted w request := Or.inl ⟨metadata, uri, client, h⟩
    rw [honest_iff_of_plain h]
    exact ⟨fun hall _ => hall, fun hall => hall hadmitted⟩
  · have hadmitted : Admitted w request := Or.inr ⟨transport, metadata, uri, client, h⟩
    rw [honest_iff_of_websocket h]
    exact ⟨fun hall _ => hall, fun hall => hall hadmitted⟩

/-- A handshake that the upstream answers with `HTTP/1.0 101` is turned away by `is_success`
and the 101 relayed; and a plain GET answered with 101 has it relayed as well. -/
theorem relayed_switch_not_honest :
    ¬TunnelHonest (sampleWorld (.response ⟨.http10, .switchingProtocols, .empty, []⟩))
      sampleHandshake ∧
    ¬TunnelHonest (sampleWorld (.response ⟨.http11, .switchingProtocols, .empty, []⟩))
      (sampleRequest .get .http11 []) :=
  ⟨not_honest_of_unbridged (Or.inl (by decide)) (by decide),
    not_honest_of_unbridged (Or.inl (by decide)) (by decide)⟩

end TlsPlus
