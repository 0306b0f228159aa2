/-
Headers nominated by `Connection`, and the path that forwards them.

A header that a request's `Connection` values list is hop-by-hop for that request.
The handshake's filter collects those names and drops them; the plain path's filter
drops a fixed list and does not look at `Connection` at all.  So the two filters
agree, and the plain path sends no nominated header, exactly when all the nominated
headers a request has are on the fixed list anyway.
-/
import TlsPlus.Proofs.Proxy.Headers

namespace TlsPlus

variable {Client : Type} {w : World Client} {request : Request}

/-- No nominated header is sent upstream; the pair an HTTP/1.1 handshake regenerates is not a
header of the request. -/
def DropsNominated (w : World Client) (request : Request) : Prop :=
  ∀ out ∈ (proxyService w request).sent, ∀ name, Nominated request.headers name →
    ¬Regenerated request name → out.headers.getAll name = []

/-- Every nominated header that the message has is dropped whether nominated or not. -/
def NominatesFixedOnly (headers : HeaderMap) : Prop :=
  ∀ name, headers.getAll name ≠ [] → Nominated headers name → ¬EndToEnd name

/-- **The two filters differ in the nominated headers.** -/
theorem filters_agree_iff (h : HeaderMap) :
    (plainHeaders h).Same (requestHeaders h .http2) ↔ NominatesFixedOnly h := by
  have hfilter : requestHeaders h .http2 = h.retain (keepsRequestHeader (connectionTokens h)) := rfl
  unfold plainHeaders NominatesFixedOnly
  rw [hfilter, Multimap.same_retain_iff]
  refine forall_congr' fun name => imp_congr_right fun _ => ?_
  have hplain : keepsPlainHeader name = true ↔ EndToEnd name := keepsPlainHeader_iff
  have hrequest : keepsRequestHeader (connectionTokens h) name = true ↔
      EndToEnd name ∧ ¬Nominated h name := keepsRequestHeader_iff
  rw [Bool.eq_iff_iff, hplain, hrequest]
  constructor
  · intro hsame hnominated hend
    exact (hsame.mp hend).2 hnominated
  · intro hfixed
    exact ⟨fun hend => ⟨hend, fun hn => hfixed hn hend⟩, And.left⟩

/-- On the plain path a nominated header is sent if it is end-to-end otherwise. -/
theorem dropsNominated_plain {metadata : Metadata} {uri : Uri} {client : Client}
    (h : AdmitsPlain w request metadata uri client) :
    DropsNominated w request ↔ NominatesFixedOnly request.headers := by
  have hnot : ∀ name, ¬Regenerated request name := by
    intro name hr
    simp [Regenerated, forwardingPath, h.plain] at hr
  unfold DropsNominated NominatesFixedOnly
  rw [proxyService_of_admitsPlain h]
  simp only [List.mem_singleton, forall_eq]
  show (∀ name, _ → _ → (plainHeaders request.headers).getAll name = []) ↔ _
  constructor
  · intro hdrops name hhas hnominated hend
    have hnil := hdrops name hnominated (hnot name)
    rw [getAll_plainHeaders, if_pos (keepsPlainHeader_iff.mpr hend)] at hnil
    exact hhas hnil
  · intro hfixed name hnominated _
    rw [getAll_plainHeaders]
    by_cases hkeep : keepsPlainHeader name = true
    · rw [if_pos hkeep]
      by_contra hhas
      exact hfixed name hhas hnominated (keepsPlainHeader_iff.mp hkeep)
    · exact if_neg hkeep

/-- On the WebSocket path none is. -/
theorem dropsNominated_websocket {transport : WebSocketTransport} {metadata : Metadata}
    {uri : Uri} {client : Client} (h : AdmitsWebsocket w request transport metadata uri client) :
    DropsNominated w request := by
  have hpath : forwardingPath request = some transport := by simp [forwardingPath, h.handshake]
  intro out hout name hnominated hregenerated
  rw [proxyService_of_admitsWebsocket h, List.mem_singleton] at hout
  have honly : EndToEndOnly request out.headers := by
    rw [hout]
    exact endToEndOnly_websocket h.handshake
  by_contra hsent
  rcases honly.nothing_else name hsent with ⟨-, hkeep⟩ | hr
  · exact hkeep ⟨by simp [hpath], hnominated⟩
  · exact hregenerated hr

/-- **Nominated headers are dropped, except on the plain path.**  A request that the plain path
forwards is sent without its nominated headers exactly if all of them are on the fixed list;
every other request is, and the two filters agree on a message exactly in that case. -/
theorem nominated_dropped_iff :
    (∀ (w : World Client) (request : Request), DropsNominated w request ↔
      ((∃ metadata uri client, AdmitsPlain w request metadata uri client) →
        NominatesFixedOnly request.headers)) ∧
    ∀ h : HeaderMap, (plainHeaders h).Same (requestHeaders h .http2) ↔ NominatesFixedOnly h := by
  refine ⟨fun w request => ?_, filters_agree_iff⟩
  rcases proxyService_cases w request with ⟨status, message, -, hrefused⟩ |
    ⟨metadata, uri, client, h⟩ | ⟨transport, metadata, uri, client, h⟩
  · have hdrops : DropsNominated w request := by
      intro out hout
      rw [hrefused] at hout
      exact absurd hout (by simp [Handled.refused])
    refine ⟨fun _ ⟨metadata, uri, client, h⟩ => ?_, fun _ => hdrops⟩
    rw [proxyService_of_admitsPlain h] at hrefused
    exact absurd (congrArg Handled.sent hrefused) (by simp [Handled.refused])
  · rw [dropsNominated_plain h]
    exact ⟨fun hfixed _ => hfixed, fun hfixed => hfixed ⟨metadata, uri, client, h⟩⟩
  · refine ⟨fun _ ⟨_, _, _, hplain⟩ => ?_, fun _ => dropsNominated_websocket h⟩
    have hclass := hplain.plain
    rw [h.handshake] at hclass
    exact absurd hclass (by simp)

/-- A header name of a request's own. -/
def xSecret : HeaderName := ⟨"x-secret", by decide⟩

/-- A plain GET with `Connection: X-Secret` and `X-Secret: 1`. -/
def nominatingRequest : Request :=
  sampleRequest .get .http11
    [(.connection, .fromStatic "X-Secret"), (xSecret, .fromStatic "1")]

theorem xSecret_nominated : Nominated nominatingRequest.headers xSecret := by
  have hmem : HeaderValue.fromStatic "X-Secret" ∈
      nominatingRequest.headers.getAll .connection := by decide
  exact ⟨_, hmem, "X-Secret", by decide, "X-Secret", by decide, by decide⟩

/-- The plain path sends the nominated header, which the handshake's filter drops. -/
theorem nominated_header_sent :
    ¬DropsNominated (sampleWorld .timeout) nominatingRequest ∧
      ¬(plainHeaders nominatingRequest.headers).Same
        (requestHeaders nominatingRequest.headers .http2) := by
  have hnot : ¬Regenerated nominatingRequest xSecret := by
    rintro ⟨-, h | h⟩
    · exact absurd h (by decide)
    · exact absurd h (by decide)
  constructor
  · intro hdrops
    have hsent : ∃ out ∈ (proxyService (sampleWorld .timeout) nominatingRequest).sent,
        out.headers.getAll xSecret ≠ [] := by decide
    obtain ⟨out, hout, hhas⟩ := hsent
    exact hhas (hdrops out hout xSecret xSecret_nominated hnot)
  · intro hsame
    exact absurd (hsame xSecret) (by decide)

end TlsPlus
