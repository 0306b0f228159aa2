/-
What of an upstream response reaches Burp.

An upstream response is relayed as it came, less `transfer-encoding`, or, when it
accepts a handshake, with the headers of the switch.  Each of the two converters
drops its own list of names.  The first drops one of the nine hop-by-hop names and
nothing that the response nominates; the second drops all but three of them.

What is dropped too little is said exactly by `NothingLeaks`; neither converter
touches any other header.
-/
import TlsPlus.Proofs.Proxy.Headers
import TlsPlus.Proofs.Proxy.Websocket

namespace TlsPlus

open Text

variable {Client : Type} {w : World Client} {request : Request} {upstream : UpstreamResponse}

/-! ### What the two converters drop -/

/-- The names that a response to an accepted handshake is sent without. -/
def switchDroppedNames : List Str :=
  ["connection", "upgrade", "content-length", "transfer-encoding", "proxy-connection",
    "proxy-authorization", "proxy-authenticate"]

/-- The hop-by-hop names that are not among them. -/
def switchLeakedNames : List Str := ["keep-alive", "te", "trailer"]

theorem hopByHop_iff_of_ne_contentLength {text : Str} (h : text ≠ "content-length") :
    text ∈ hopByHopNames ↔ text ∈ switchDroppedNames ∨ text ∈ switchLeakedNames := by
  have hperm : (("content-length" : Str) :: hopByHopNames).Perm
      (switchDroppedNames ++ switchLeakedNames) := by decide
  have hmem := hperm.mem_iff (a := text)
  rw [List.mem_cons, List.mem_append] at hmem
  rw [← hmem]
  exact ⟨Or.inr, fun hor => hor.resolve_left h⟩

theorem keepsResponseHeader_iff {headers : HeaderMap} {name : HeaderName} :
    keepsResponseHeader (connectionTokens headers) name = true ↔
      name.text ∉ switchDroppedNames ∧ ¬Nominated headers name := by
  have htext : ∀ other : HeaderName, name = other ↔ name.text = other.text :=
    fun other => ⟨fun h => by rw [h], HeaderName.ext⟩
  have hdropped : name.text ∈ switchDroppedNames ↔ name = .connection ∨ name = .upgrade ∨
      name = .contentLength ∨ name = .transferEncoding ∨
      name.text ∈ (["proxy-connection", "proxy-authorization", "proxy-authenticate"] : List Str) := by
    rw [htext, htext, htext, htext]
    unfold switchDroppedNames
    simp only [List.mem_cons]
    exact Iff.rfl
  unfold keepsResponseHeader
  rw [hdropped, ← mem_connectionTokens_iff]
  simp only [Bool.and_eq_true, Bool.not_eq_true', decide_eq_true_eq, ← Bool.not_eq_true,
    List.contains_iff_mem, not_or, and_assoc]

theorem getAll_convertResponse (name : HeaderName) :
    (convertResponse upstream).headers.getAll name
      = if .transferEncoding = name then [] else upstream.headers.getAll name :=
  Multimap.getAll_remove _ _ _

/-! ### Relayed responses -/

/-- The transport of the handshake that the response accepts, if it accepts one. -/
def acceptedTransport (request : Request) (upstream : UpstreamResponse) :
    Option WebSocketTransport :=
  (forwardingPath request).filter fun transport => Outbound.isSuccess upstream transport

/-- The upstream's response arrived and the proxy has not answered with an error of its own. -/
structure Relayed (w : World Client) (request : Request) (upstream : UpstreamResponse) : Prop where
  sent : (proxyService w request).sent ≠ []
  received : w.send = .response upstream
  answered : ∀ status message, (proxyService w request).response ≠ errorResponse status message

/-- **A response is relayed in one of two forms**, according to whether it accepted a
handshake. -/
theorem Relayed.response_eq (h : Relayed w request upstream) :
    (acceptedTransport request upstream = none ∧
      (proxyService w request).response = convertResponse upstream) ∨
    ∃ transport, acceptedTransport request upstream = some transport ∧
      (proxyService w request).response = bridgedResponse upstream transport := by
  unfold acceptedTransport forwardingPath
  rcases proxyService_cases w request with ⟨status, message, -, hrefused⟩ |
    ⟨metadata, uri, client, hadmits⟩ | ⟨transport, metadata, uri, client, hadmits⟩
  · exact absurd (by rw [hrefused]; rfl) h.sent
  · rw [proxyService_of_admitsPlain hadmits, hadmits.plain]
    refine Or.inl ⟨rfl, ?_⟩
    simp only [plainAnswer, h.received]
  · have hanswered := h.answered
    rw [proxyService_of_admitsWebsocket hadmits] at hanswered ⊢
    rw [hadmits.handshake]
    rcases websocketAnswer_cases w request transport metadata with
      ⟨response, stream, hsend, hsuccess, -, hanswer⟩ | ⟨response, hsend, hsuccess, hanswer⟩ |
      ⟨status, message, -, -, hanswer⟩
    · have hsame : response = upstream := SendOutcome.response.inj (hsend.symm.trans h.received)
      rw [hanswer, ← hsame]
      refine Or.inr ⟨transport, ?_, rfl⟩
      simp [hsuccess]
    · have hsame : response = upstream := SendOutcome.response.inj (hsend.symm.trans h.received)
      rw [hanswer, ← hsame]
      refine Or.inl ⟨?_, rfl⟩
      simp [hsuccess]
    · rw [hanswer] at hanswered
      exact absurd rfl (hanswered status message)

/-- The pair that is put in when an HTTP/1.1 handshake was accepted. -/
def FreshPair (accepted : Option WebSocketTransport) (name : HeaderName) : Prop :=
  accepted = some .http1 ∧ (name = .connection ∨ name = .upgrade)

/-- No hop-by-hop and no nominated header of the upstream comes through, the fresh pair stands
alone, and every other header keeps its values. -/
structure RelayedCleanly (headers : HeaderMap) (accepted : Option WebSocketTransport)
    (downstream : HeaderMap) : Prop where
  dropped : ∀ name, name.text ∈ hopByHopNames ∨ Nominated headers name →
    ¬FreshPair accepted name → downstream.getAll name = []
  pair : accepted = some .http1 → downstream.getAll .connection = [.fromStatic "Upgrade"] ∧
    downstream.getAll .upgrade = [.fromStatic "websocket"]
  kept : ∀ name, name.text ∉ hopByHopNames → ¬Nominated headers name →
    ¬(accepted.isSome = true ∧ name = .contentLength) →
      downstream.getAll name = headers.getAll name

/-- The headers have none of the names that the converter fails to drop. -/
def NothingLeaks (headers : HeaderMap) : Option WebSocketTransport → Prop
  | none => ∀ name, name.text ∈ hopByHopNames → name ≠ .transferEncoding →
      headers.getAll name = []
  | some _ => ∀ name, name.text ∈ switchLeakedNames → ¬Nominated headers name →
      headers.getAll name = []

/-- Without a `Connection` header nothing is nominated. -/
theorem not_nominated_of_no_connection {headers : HeaderMap}
    (h : headers.getAll .connection = []) (name : HeaderName) : ¬Nominated headers name := by
  rintro ⟨value, hvalue, -⟩
  rw [h] at hvalue
  exact List.not_mem_nil hvalue

theorem relayedCleanly_convertResponse_iff :
    RelayedCleanly upstream.headers none (convertResponse upstream).headers ↔
      NothingLeaks upstream.headers none := by
  constructor
  · intro hclean name hhop hne
    have hgone := hclean.dropped name (Or.inl hhop) (fun hpair => by simp [FreshPair] at hpair)
    rwa [getAll_convertResponse, if_neg (Ne.symm hne)] at hgone
  · intro hleaks
    have hnominated := not_nominated_of_no_connection
      (hleaks .connection (by decide) (by decide))
    refine ⟨fun name hname _ => ?_, fun hpair => by simp at hpair, fun name hhop _ _ => ?_⟩
    · rw [getAll_convertResponse]
      by_cases hte : HeaderName.transferEncoding = name
      · rw [if_pos hte]
      · rw [if_neg hte]
        exact hleaks name (hname.resolve_right (hnominated name)) (Ne.symm hte)
    · have hte : HeaderName.transferEncoding ≠ name := by
        rintro rfl
        exact hhop (by decide)
      rw [getAll_convertResponse, if_neg hte]

/-- Off the fresh pair a bridged response keeps what the converter keeps. -/
theorem getAll_bridgedResponse {transport : WebSocketTransport} {name : HeaderName}
    (h : ¬FreshPair (some transport) name) :
    (bridgedResponse upstream transport).headers.getAll name
      = if keepsResponseHeader (connectionTokens upstream.headers) name
        then upstream.headers.getAll name else [] := by
  have hpair : ¬(transport = .http1 ∧ (name = .connection ∨ name = .upgrade)) :=
    fun hp => h ⟨congrArg some hp.1, hp.2⟩
  show (responseHeaders upstream.headers transport).getAll name = _
  rw [responseHeaders, getAll_withUpgradePair_of_not_pair _ hpair, Multimap.getAll_retain]

theorem relayedCleanly_bridgedResponse_iff (transport : WebSocketTransport) :
    RelayedCleanly upstream.headers (some transport) (bridgedResponse upstream transport).headers ↔
      NothingLeaks upstream.headers (some transport) := by
  have hleaked : ∀ name : HeaderName, name.text ∈ switchLeakedNames →
      name.text ∈ hopByHopNames ∧ name.text ∉ switchDroppedNames := by
    intro name hname
    have hall : switchLeakedNames.all
        (fun text => hopByHopNames.contains text && !switchDroppedNames.contains text) = true := by
      decide
    have hboth := List.all_eq_true.mp hall _ hname
    rw [Bool.and_eq_true, Bool.not_eq_true', ← Bool.not_eq_true, List.contains_iff_mem,
      List.contains_iff_mem] at hboth
    exact hboth
  constructor
  · intro hclean name hname hnominated
    obtain ⟨hhop, hnotDropped⟩ := hleaked name hname
    have hpair : ¬FreshPair (some transport) name := by
      rintro ⟨-, rfl | rfl⟩
      · exact hnotDropped (by decide)
      · exact hnotDropped (by decide)
    have hgone := hclean.dropped name (Or.inl hhop) hpair
    rwa [getAll_bridgedResponse hpair,
      if_pos (keepsResponseHeader_iff.mpr ⟨hnotDropped, hnominated⟩)] at hgone
  · intro hleaks
    refine ⟨fun name hname hpair => ?_, fun hhttp1 => ?_, fun name hhop hnominated hlength => ?_⟩
    · rw [getAll_bridgedResponse hpair]
      by_cases hkeeps : keepsResponseHeader (connectionTokens upstream.headers) name = true
      · rw [if_pos hkeeps]
        obtain ⟨hnotDropped, hnominated⟩ := keepsResponseHeader_iff.mp hkeeps
        have hne : name.text ≠ "content-length" := by
          intro htext
          exact hnotDropped (htext ▸ by decide)
        have hhop := (hopByHop_iff_of_ne_contentLength hne).mp (hname.resolve_right hnominated)
        exact hleaks name (hhop.resolve_left hnotDropped) hnominated
      · rw [if_neg hkeeps]
    · rw [Option.some.inj hhttp1]
      exact getAll_withUpgradePair_http1 _
    · have hpair : ¬FreshPair (some transport) name := by
        rintro ⟨-, rfl | rfl⟩
        · exact hhop (by decide)
        · exact hhop (by decide)
      have hne : name.text ≠ "content-length" := by
        intro htext
        exact hlength ⟨rfl, HeaderName.ext htext⟩
      have hnotDropped : name.text ∉ switchDroppedNames := fun hdropped =>
        hhop ((hopByHop_iff_of_ne_contentLength hne).mpr (Or.inl hdropped))
      rw [getAll_bridgedResponse hpair,
        if_pos (keepsResponseHeader_iff.mpr ⟨hnotDropped, hnominated⟩)]

/-- **A response is relayed cleanly exactly if it has nothing the converter fails to drop**: on
the plain path and for a refused handshake, a hop-by-hop header other than `transfer-encoding`;
for an accepted handshake, a `keep-alive`, `te` or `trailer` that it does not nominate itself. -/
theorem relayed_cleanly_iff (h : Relayed w request upstream) :
    RelayedCleanly upstream.headers (acceptedTransport request upstream)
        (proxyService w request).response.headers ↔
      NothingLeaks upstream.headers (acceptedTransport request upstream) := by
  rcases h.response_eq with ⟨haccepted, hresponse⟩ | ⟨transport, haccepted, hresponse⟩
  · rw [haccepted, hresponse]
    exact relayedCleanly_convertResponse_iff
  · rw [haccepted, hresponse]
    exact relayedCleanly_bridgedResponse_iff transport

/-! ### Two responses on the plain path -/

def sampleUpstream (fields : List (HeaderName × HeaderValue)) : UpstreamResponse where
  version := .http11
  status := .ok
  headers := .collect fields
  body := []

/-- The sample request gets every response relayed. -/
theorem relayed_sampleUpstream (fields : List (HeaderName × HeaderValue)) :
    Relayed (sampleWorld (.response (sampleUpstream fields))) (sampleRequest .get .http11 [])
      (sampleUpstream fields) := by
  have hresponse : (proxyService (sampleWorld (.response (sampleUpstream fields)))
      (sampleRequest .get .http11 [])).response = convertResponse (sampleUpstream fields) := rfl
  refine ⟨?_, rfl, fun status message herror => ?_⟩
  · have hsent : (proxyService (sampleWorld (.response (sampleUpstream fields)))
        (sampleRequest .get .http11 [])).sent.length = 1 := rfl
    exact List.ne_nil_of_length_eq_add_one hsent
  · rw [hresponse] at herror
    have hbody := congrArg Response.body herror
    exact absurd hbody (by simp [convertResponse, errorResponse])

/-- What the sample request is answered, and on which terms. -/
def CleanlyRelayedSample (upstream : UpstreamResponse) : Prop :=
  RelayedCleanly upstream.headers
    (acceptedTransport (sampleRequest .get .http11 []) upstream)
    (proxyService (sampleWorld (.response upstream)) (sampleRequest .get .http11 [])).response.headers

theorem relayed_cleanly_iff_chunked :
    CleanlyRelayedSample (sampleUpstream [(.transferEncoding, .fromStatic "chunked")]) := by
  refine (relayed_cleanly_iff (relayed_sampleUpstream _)).mpr ?_
  show NothingLeaks _ none
  intro name _ hne
  show (Multimap.empty.append .transferEncoding _).getAll name = []
  rw [Multimap.getAll_append, if_neg (Ne.symm hne), Multimap.getAll_empty]

/-- A response with a `Connection` that nominates two headers, and these. -/
def keepAliveUpstream : UpstreamResponse :=
  sampleUpstream [(.connection, .fromStatic "keep-alive, x-trace"),
    (⟨"keep-alive", by decide⟩, .fromStatic "timeout=5"),
    (⟨"x-trace", by decide⟩, .fromStatic "a1b2")]

/-- **Hop-by-hop headers are relayed**, `Connection` itself among them. -/
theorem hop_by_hop_relayed :
    Relayed (sampleWorld (.response keepAliveUpstream)) (sampleRequest .get .http11 [])
        keepAliveUpstream ∧
      ¬CleanlyRelayedSample keepAliveUpstream := by
  refine ⟨relayed_sampleUpstream _, fun hclean => ?_⟩
  have hgone := hclean.dropped .connection (Or.inl (by decide))
    (fun hpair => absurd hpair.1 (by decide))
  exact absurd hgone (by decide)

end TlsPlus
