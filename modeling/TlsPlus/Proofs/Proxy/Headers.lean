/-
The headers that are sent upstream are the end-to-end headers.

Both paths filter the inbound multimap on names alone, the handshake's filter on
the names its `Connection` values nominate as well.  So each is described by the
set of names it keeps (`keepsPlainHeader_iff`, `keepsRequestHeader_iff`), and
`Multimap.getAll_retain` turns that into what every name is sent with.

Names starting with `x-tlsplus-` are in neither set and nominate nothing, which is
why requests that differ only in them are sent with the same headers.
-/
import TlsPlus.Proofs.Proxy.Service
import TlsPlus.Proofs.Proxy.Websocket

namespace TlsPlus

open Text

variable {Client : Type} {w : World Client} {request : Request}

/-! ### End-to-end names -/

/-- The hop-by-hop header names. -/
def hopByHopNames : List Str :=
  ["connection", "proxy-connection", "keep-alive", "proxy-authorization", "proxy-authenticate",
    "te", "trailer", "transfer-encoding", "upgrade"]

/-- The name of forwarding metadata, which is meant for the proxy alone. -/
def IsMetadata (name : HeaderName) : Prop := ("x-tlsplus-" : Str) <+: name.text

structure EndToEnd (name : HeaderName) : Prop where
  not_host : name ≠ .host
  not_metadata : ¬IsMetadata name
  not_hopByHop : name.text ∉ hopByHopNames

/-- The name is listed in one of the readable `Connection` values, ignoring case and the white
space around it. -/
def Nominated (headers : HeaderMap) (name : HeaderName) : Prop :=
  ∃ value ∈ headers.getAll .connection, ∃ text, value.toStr = some text ∧
    ∃ token ∈ text.splitOn ',', eqIgnoreAsciiCase (trim token) name.text = true

/-! ### What the tests on names decide -/

/-- Where the characters of a header name lie: visible, no capital letters and no colon. -/
theorem isHeaderNameChar_range {c : Char} (h : isHeaderNameChar c = true) :
    (33 ≤ c.toNat ∧ c.toNat < 127) ∧ ¬(65 ≤ c.toNat ∧ c.toNat ≤ 90) ∧ c.toNat ≠ 58 := by
  unfold isHeaderNameChar at h
  simp only [Bool.or_eq_true, decide_eq_true_eq, isDigit_iff, isLower_iff] at h
  rcases h with ((hdigit | hlower) | hpunctuation) | htick
  · omega
  · omega
  · have hall : ("!#$%&'*+-.^_|~" : Str).all (fun d =>
        decide ((33 ≤ d.toNat ∧ d.toNat < 65) ∨ (90 < d.toNat ∧ d.toNat < 127)) &&
          decide (d.toNat ≠ 58)) = true := by decide
    have hc := List.all_eq_true.mp hall c (List.contains_iff_mem.mp hpunctuation)
    rw [Bool.and_eq_true, decide_eq_true_eq, decide_eq_true_eq] at hc
    omega
  · omega

private theorem toLower_of_isHeaderNameChar {c : Char} (h : isHeaderNameChar c = true) :
    c.toLower = c := by
  rw [← Char.toNat_inj, toNat_toLower, if_neg (isHeaderNameChar_range h).2.1]

/-- Header names are in lower case. -/
theorem HeaderName.toAsciiLowercase_text (name : HeaderName) :
    toAsciiLowercase name.text = name.text := by
  have hall : ∀ c ∈ name.text, isHeaderNameChar c = true := by
    simpa using name.valid.2.2
  unfold toAsciiLowercase
  exact (List.map_congr_left fun c hc => toLower_of_isHeaderNameChar (hall c hc)).trans
    (List.map_id _)

/-- The tokens the handshake's filter collects are the nominated names. -/
theorem mem_connectionTokens_iff {headers : HeaderMap} {name : HeaderName} :
    name.text ∈ connectionTokens headers ↔ Nominated headers name := by
  unfold connectionTokens Nominated
  simp only [List.mem_map, List.mem_filter, List.mem_flatMap, List.mem_filterMap]
  constructor
  · rintro ⟨_, ⟨⟨token, ⟨text, ⟨value, hvalue, htext⟩, htoken⟩, rfl⟩, -⟩, hlower⟩
    refine ⟨value, hvalue, text, htext, token, htoken, ?_⟩
    rw [eqIgnoreAsciiCase_iff, hlower, name.toAsciiLowercase_text]
  · rintro ⟨value, hvalue, text, htext, token, htoken, heq⟩
    rw [eqIgnoreAsciiCase_iff, name.toAsciiLowercase_text] at heq
    have hne : trim token ≠ [] := by
      intro hnil
      rw [hnil] at heq
      exact name.valid.1 heq.symm
    exact ⟨trim token, ⟨⟨token, ⟨text, ⟨value, hvalue, htext⟩, htoken⟩, rfl⟩, by simpa using hne⟩,
      heq⟩

theorem keepsPlainHeader_iff {name : HeaderName} :
    keepsPlainHeader name = true ↔ EndToEnd name := by
  unfold keepsPlainHeader isHopByHop
  simp only [Bool.and_eq_true, Bool.not_eq_true', decide_eq_true_eq, ← Bool.not_eq_true,
    List.isPrefixOf_iff_prefix, List.contains_iff_mem]
  constructor
  · rintro ⟨⟨hmetadata, hhost⟩, hhop⟩
    exact ⟨hhost, hmetadata, hhop⟩
  · intro h
    exact ⟨⟨h.not_metadata, h.not_host⟩, h.not_hopByHop⟩

private theorem isHopByHop_eq (name : HeaderName) :
    isHopByHop name.text = (decide (name = .connection) || (decide (name = .upgrade) ||
      (["proxy-connection", "proxy-authorization", "proxy-authenticate", "keep-alive", "te",
        "trailer", "transfer-encoding"] : List Str).contains name.text)) := by
  have hperm : hopByHopNames.Perm ("connection" :: "upgrade" :: ["proxy-connection",
      "proxy-authorization", "proxy-authenticate", "keep-alive", "te", "trailer",
      "transfer-encoding"]) := by decide
  have hconnection : name.text = "connection" ↔ name = .connection :=
    ⟨fun h => HeaderName.ext h, fun h => by rw [h]; rfl⟩
  have hupgrade : name.text = "upgrade" ↔ name = .upgrade :=
    ⟨fun h => HeaderName.ext h, fun h => by rw [h]; rfl⟩
  have hmem : name.text ∈ hopByHopNames ↔ _ := hperm.mem_iff
  rw [List.mem_cons, List.mem_cons, hconnection, hupgrade] at hmem
  rw [Bool.eq_iff_iff, Bool.or_eq_true, Bool.or_eq_true, decide_eq_true_eq, decide_eq_true_eq,
    List.contains_iff_mem, ← hmem]
  exact List.contains_iff_mem

/-- **The handshake's filter is the plain one, less the nominated names.** -/
theorem keepsRequestHeader_eq (nominated : List Str) (name : HeaderName) :
    keepsRequestHeader nominated name
      = (keepsPlainHeader name && !nominated.contains name.text) := by
  unfold keepsRequestHeader keepsPlainHeader
  rw [isHopByHop_eq, Bool.not_or, Bool.not_or, decide_not, decide_not, decide_not]
  simp only [Bool.and_assoc]

theorem keepsRequestHeader_iff {headers : HeaderMap} {name : HeaderName} :
    keepsRequestHeader (connectionTokens headers) name = true ↔
      EndToEnd name ∧ ¬Nominated headers name := by
  rw [keepsRequestHeader_eq, Bool.and_eq_true, keepsPlainHeader_iff, Bool.not_eq_true',
    ← Bool.not_eq_true, List.contains_iff_mem, mem_connectionTokens_iff]

/-! ### What every name is sent with -/

/-- The WebSocket transport a request is forwarded on; none for the plain path. -/
def forwardingPath (request : Request) : Option WebSocketTransport :=
  match classify request with
  | .webSocket transport => some transport
  | _ => none

/-- Whether the path a request takes drops the names its `Connection` nominates. -/
def NominatedOnPath (request : Request) (name : HeaderName) : Prop :=
  (forwardingPath request).isSome ∧ Nominated request.headers name

/-- The fresh pair of an HTTP/1.1 handshake. -/
def Regenerated (request : Request) (name : HeaderName) : Prop :=
  forwardingPath request = some .http1 ∧ (name = .connection ∨ name = .upgrade)

/-- The headers sent for a request: its end-to-end headers as they were, nothing else, and the
fresh pair of an HTTP/1.1 handshake. -/
structure EndToEndOnly (request : Request) (outbound : HeaderMap) : Prop where
  forwarded : ∀ name, EndToEnd name → ¬NominatedOnPath request name →
    outbound.getAll name = request.headers.getAll name
  nothing_else : ∀ name, outbound.getAll name ≠ [] →
    (EndToEnd name ∧ ¬NominatedOnPath request name) ∨ Regenerated request name
  pair : forwardingPath request = some .http1 →
    outbound.getAll .connection = [.fromStatic "Upgrade"] ∧
      outbound.getAll .upgrade = [.fromStatic "websocket"]

theorem not_endToEnd_connection : ¬EndToEnd .connection := fun h => h.not_hopByHop (by decide)

theorem not_endToEnd_upgrade : ¬EndToEnd .upgrade := fun h => h.not_hopByHop (by decide)

theorem getAll_plainHeaders (h : HeaderMap) (name : HeaderName) :
    (plainHeaders h).getAll name = if keepsPlainHeader name then h.getAll name else [] :=
  Multimap.getAll_retain _ _ _

/-- The fresh pair overrides `Connection` and `Upgrade` and leaves the rest alone. -/
theorem getAll_withUpgradePair (h : HeaderMap) (transport : WebSocketTransport)
    (name : HeaderName) :
    (withUpgradePair h transport).getAll name =
      if transport = .http1 ∧ name = .connection then [.fromStatic "Upgrade"]
      else if transport = .http1 ∧ name = .upgrade then [.fromStatic "websocket"]
      else h.getAll name := by
  have hne : HeaderName.connection ≠ .upgrade := by decide
  unfold withUpgradePair
  cases transport with
  | http2 => simp
  | http1 =>
      simp only [if_true, true_and, Multimap.getAll_insert]
      by_cases hc : name = .connection
      · subst hc
        rw [if_neg hne.symm, if_pos rfl, if_pos rfl]
      · rw [if_neg hc]
        by_cases hu : name = .upgrade
        · rw [if_pos hu.symm, if_pos hu]
        · rw [if_neg (Ne.symm hu), if_neg (Ne.symm hc), if_neg hu]

theorem getAll_withUpgradePair_http1 (h : HeaderMap) :
    (withUpgradePair h .http1).getAll .connection = [.fromStatic "Upgrade"] ∧
      (withUpgradePair h .http1).getAll .upgrade = [.fromStatic "websocket"] := by
  rw [getAll_withUpgradePair, getAll_withUpgradePair]
  exact ⟨if_pos ⟨rfl, rfl⟩, (if_neg (by decide)).trans (if_pos ⟨rfl, rfl⟩)⟩

theorem getAll_withUpgradePair_of_not_pair (h : HeaderMap) {transport : WebSocketTransport}
    {name : HeaderName}
    (hpair : ¬(transport = .http1 ∧ (name = .connection ∨ name = .upgrade))) :
    (withUpgradePair h transport).getAll name = h.getAll name := by
  rw [getAll_withUpgradePair, if_neg (fun hc => hpair ⟨hc.1, Or.inl hc.2⟩),
    if_neg (fun hu => hpair ⟨hu.1, Or.inr hu.2⟩)]

theorem getAll_requestHeaders (h : HeaderMap) (transport : WebSocketTransport)
    (name : HeaderName) :
    (requestHeaders h transport).getAll name =
      if transport = .http1 ∧ name = .connection then [.fromStatic "Upgrade"]
      else if transport = .http1 ∧ name = .upgrade then [.fromStatic "websocket"]
      else if keepsRequestHeader (connectionTokens h) name then h.getAll name else [] := by
  unfold requestHeaders
  rw [getAll_withUpgradePair, Multimap.getAll_retain]

theorem endToEndOnly_plain (h : classify request = .none) :
    EndToEndOnly request (plainHeaders request.headers) := by
  have hpath : forwardingPath request = none := by simp [forwardingPath, h]
  have hnominated : ∀ name, ¬NominatedOnPath request name := by
    intro name hn
    simp [NominatedOnPath, hpath] at hn
  refine ⟨fun name hname _ => ?_, fun name hsent => Or.inl ⟨?_, hnominated name⟩, fun hhttp1 => ?_⟩
  · rw [getAll_plainHeaders, if_pos (keepsPlainHeader_iff.mpr hname)]
  · by_contra hname
    rw [getAll_plainHeaders, if_neg (fun hk => hname (keepsPlainHeader_iff.mp hk))] at hsent
    exact hsent rfl
  · rw [hpath] at hhttp1
    exact absurd hhttp1 (by simp)

theorem endToEndOnly_websocket {transport : WebSocketTransport}
    (h : classify request = .webSocket transport) :
    EndToEndOnly request (requestHeaders request.headers transport) := by
  have hpath : forwardingPath request = some transport := by simp [forwardingPath, h]
  have hnominated : ∀ name, NominatedOnPath request name ↔ Nominated request.headers name := by
    intro name
    simp [NominatedOnPath, hpath]
  refine ⟨fun name hname hkeep => ?_, fun name hsent => ?_, fun hhttp1 => ?_⟩
  · rw [hnominated] at hkeep
    have hconnection : name ≠ .connection := fun he => not_endToEnd_connection (he ▸ hname)
    have hupgrade : name ≠ .upgrade := fun he => not_endToEnd_upgrade (he ▸ hname)
    rw [getAll_requestHeaders, if_neg (fun he => hconnection he.2),
      if_neg (fun he => hupgrade he.2), if_pos (keepsRequestHeader_iff.mpr ⟨hname, hkeep⟩)]
  · by_cases hregenerated : Regenerated request name
    · exact Or.inr hregenerated
    · have hpair : ¬(transport = .http1 ∧ (name = .connection ∨ name = .upgrade)) :=
        fun hp => hregenerated ⟨hpath.trans (congrArg some hp.1), hp.2⟩
      rw [requestHeaders, getAll_withUpgradePair_of_not_pair _ hpair,
        Multimap.getAll_retain] at hsent
      have hkeep : keepsRequestHeader (connectionTokens request.headers) name = true := by
        by_contra hdrop
        rw [if_neg hdrop] at hsent
        exact hsent rfl
      rw [hnominated]
      exact Or.inl (keepsRequestHeader_iff.mp hkeep)
  · have htransport : transport = .http1 := Option.some.inj (hpath.symm.trans hhttp1)
    rw [htransport]
    exact getAll_withUpgradePair_http1 _

/-! ### Requests that differ in their metadata only -/

/-- Two requests that nothing but their `x-tlsplus-` headers tells apart. -/
structure DifferInMetadata (request request' : Request) : Prop where
  method : request.method = request'.method
  version : request.version = request'.version
  protocol : request.protocol = request'.protocol
  body : request.body = request'.body
  headers : ∀ name, ¬IsMetadata name →
    request.headers.getAll name = request'.headers.getAll name

private theorem not_isMetadata_connection : ¬IsMetadata .connection := by
  unfold IsMetadata
  decide

private theorem not_isMetadata_upgrade : ¬IsMetadata .upgrade := by
  unfold IsMetadata
  decide

/-- They take the same path. -/
theorem DifferInMetadata.classify_eq {request' : Request} (h : DifferInMetadata request request') :
    classify request = classify request' := by
  unfold classify containsToken
  rw [h.protocol, h.method, h.version, h.headers _ not_isMetadata_connection,
    h.headers _ not_isMetadata_upgrade]

theorem DifferInMetadata.nominated_iff {request' : Request} (h : DifferInMetadata request request')
    (name : HeaderName) : Nominated request.headers name ↔ Nominated request'.headers name := by
  unfold Nominated
  rw [h.headers _ not_isMetadata_connection]

/-- Headers that are end-to-end only are determined by what is not metadata. -/
theorem EndToEndOnly.same {request' : Request} {outbound outbound' : HeaderMap}
    (hdiffer : DifferInMetadata request request') (h : EndToEndOnly request outbound)
    (h' : EndToEndOnly request' outbound') : outbound.Same outbound' := by
  have hpath : forwardingPath request = forwardingPath request' := by
    unfold forwardingPath
    rw [hdiffer.classify_eq]
  have hnominated : ∀ name, NominatedOnPath request name ↔ NominatedOnPath request' name := by
    intro name
    unfold NominatedOnPath
    rw [hpath, hdiffer.nominated_iff]
  intro name
  by_cases hregenerated : Regenerated request name
  · obtain ⟨hhttp1, rfl | rfl⟩ := hregenerated
    · rw [(h.pair hhttp1).1, (h'.pair (hpath ▸ hhttp1)).1]
    · rw [(h.pair hhttp1).2, (h'.pair (hpath ▸ hhttp1)).2]
  · by_cases hkeep : EndToEnd name ∧ ¬NominatedOnPath request name
    · have hkeep' : ¬NominatedOnPath request' name := fun hn => hkeep.2 ((hnominated name).mpr hn)
      rw [h.forwarded name hkeep.1 hkeep.2, h'.forwarded name hkeep.1 hkeep']
      exact hdiffer.headers name hkeep.1.not_metadata
    · have hnil : outbound.getAll name = [] := by
        by_contra hsent
        rcases h.nothing_else name hsent with hk | hr
        · exact hkeep hk
        · exact hregenerated hr
      have hnil' : outbound'.getAll name = [] := by
        by_contra hsent
        rcases h'.nothing_else name hsent with hk | hr
        · exact hkeep ⟨hk.1, fun hn => hk.2 ((hnominated name).mp hn)⟩
        · exact hregenerated ⟨hpath.trans hr.1, hr.2⟩
      rw [hnil, hnil']

/-- **The headers sent upstream are exactly the end-to-end headers**, and so do not depend on
the metadata. -/
theorem headers_end_to_end (w : World Client) (request : Request) :
    (∀ out ∈ (proxyService w request).sent, EndToEndOnly request out.headers) ∧
    ∀ (w' : World Client) (request' : Request), DifferInMetadata request request' →
      ∀ out ∈ (proxyService w request).sent, ∀ out' ∈ (proxyService w' request').sent,
        out.headers.Same out'.headers := by
  have honly : ∀ (v : World Client) (r : Request), ∀ out ∈ (proxyService v r).sent,
      EndToEndOnly r out.headers := by
    intro v r out hout
    rcases mem_sent hout with ⟨metadata, uri, client, hadmits, rfl⟩ |
      ⟨transport, metadata, uri, client, hadmits, rfl⟩
    · exact endToEndOnly_plain hadmits.plain
    · exact endToEndOnly_websocket hadmits.handshake
  refine ⟨honly w request, fun w' request' hdiffer out hout out' hout' => ?_⟩
  exact EndToEndOnly.same hdiffer (honly w request out hout) (honly w' request' out' hout')

/-- The sample handshake with metadata of its own. -/
def impatientHandshake : Request :=
  { sampleHandshake with
    headers := (sampleHandshake.headers.insert .xTlsplusTarget
      (.fromStatic "ws://up.example/")).insert .xTlsplusTimeout (.fromStatic "7") }

/-- Handshakes for different targets and timeouts are both sent, with the same headers. -/
theorem headers_end_to_end_handshakes :
    ∃ out ∈ (proxyService (sampleWorld .timeout) sampleHandshake).sent,
      ∃ out' ∈ (proxyService (sampleWorld .timeout) impatientHandshake).sent,
        out.headers.getAll .upgrade = [.fromStatic "websocket"] ∧
          out.headers.Same out'.headers := by
  have hdiffer : DifferInMetadata sampleHandshake impatientHandshake := by
    refine ⟨rfl, rfl, rfl, rfl, fun name hname => ?_⟩
    have htarget : HeaderName.xTlsplusTarget ≠ name := by
      rintro rfl
      exact hname (by unfold IsMetadata; decide)
    have htimeout : HeaderName.xTlsplusTimeout ≠ name := by
      rintro rfl
      exact hname (by unfold IsMetadata; decide)
    unfold impatientHandshake
    rw [Multimap.getAll_insert, if_neg htimeout, Multimap.getAll_insert, if_neg htarget]
  have hsent : ∃ out ∈ (proxyService (sampleWorld .timeout) sampleHandshake).sent,
      out.headers.getAll .upgrade = [.fromStatic "websocket"] := by decide
  have hsent' : ∃ out' ∈ (proxyService (sampleWorld .timeout) impatientHandshake).sent,
      out'.version = .http11 := by decide
  obtain ⟨out, hout, hupgrade⟩ := hsent
  obtain ⟨out', hout', -⟩ := hsent'
  exact ⟨out, hout, out', hout', hupgrade, (headers_end_to_end (sampleWorld .timeout)
    sampleHandshake).2 (sampleWorld .timeout) impatientHandshake hdiffer out hout out' hout'⟩

end TlsPlus
