/-
`Connection` and `Upgrade` as lists, and handshake headers rewritten again.

The proxy reads the two headers with two tokenisers: one asks for a token, the
other collects them all.  Both read a header as one comma list that may be cut
into lines anywhere (`containsToken_iff`, `connectionTokens_eq`), so requests whose
lists have the same elements are handled alike.

What the proxy sends in place of the two headers is a handshake again, and a
second rewrite sees nothing of the first: the names it nominates are names that
are dropped anyway.
-/
import TlsPlus.Proofs.Proxy.Headers
import TlsPlus.Proofs.Proxy.Relay

namespace TlsPlus

open Text

variable {headers : HeaderMap} {request request' : Request}

/-! ### One list for each header -/

/-- The lines of a header that can be read. -/
def fieldLines (headers : HeaderMap) (name : HeaderName) : List Str :=
  (headers.getAll name).filterMap HeaderValue.toStr

/-- All lines of a header as one list. -/
def fieldList (headers : HeaderMap) (name : HeaderName) : Str :=
  joinLines (fieldLines headers name)

theorem listElements_fieldList (headers : HeaderMap) (name : HeaderName) :
    listElements (fieldList headers name) = (fieldLines headers name).flatMap listElements :=
  listElements_joinLines _

theorem connectionTokens_eq (headers : HeaderMap) :
    connectionTokens headers = listElements (fieldList headers .connection) := by
  rw [listElements_fieldList]
  unfold connectionTokens listElements fieldLines
  rw [List.map_flatMap, List.filter_flatMap, List.map_flatMap]

/-- **Asking for a token asks for an element of the list.** -/
theorem containsToken_iff {name : HeaderName} {token : Str} (hne : token ≠ [])
    (hlower : toAsciiLowercase token = token) :
    containsToken headers name token = true ↔
      token ∈ listElements (fieldList headers name) := by
  have hmatch : ∀ text : Str,
      ((text.splitOn ',').any fun part => eqIgnoreAsciiCase (trim part) token) = true ↔
        token ∈ listElements text := by
    intro text
    rw [List.any_eq_true, mem_listElements]
    refine exists_congr fun part => and_congr_right fun _ => ?_
    rw [eqIgnoreAsciiCase_iff, hlower]
    refine ⟨fun h => ⟨fun hnil => hne ?_, h⟩, And.right⟩
    rw [← h, hnil]
    rfl
  rw [listElements_fieldList, List.mem_flatMap]
  unfold containsToken fieldLines
  rw [List.any_eq_true]
  constructor
  · rintro ⟨value, hvalue, htoken⟩
    cases htext : value.toStr with
    | none => simp [htext] at htoken
    | some text =>
        rw [htext] at htoken
        exact ⟨text, List.mem_filterMap.mpr ⟨value, hvalue, htext⟩, (hmatch text).mp htoken⟩
  · rintro ⟨text, htext, htoken⟩
    obtain ⟨value, hvalue, hread⟩ := List.mem_filterMap.mp htext
    refine ⟨value, hvalue, ?_⟩
    rw [hread]
    exact (hmatch text).mpr htoken

/-- Two requests that nothing but the spelling of their `Connection` and `Upgrade` lists tells
apart: the lines, the order, the repetitions, the white space, the letter case. -/
structure SameLists (request request' : Request) : Prop where
  method : request.method = request'.method
  version : request.version = request'.version
  protocol : request.protocol = request'.protocol
  headers : ∀ name, name ≠ .connection → name ≠ .upgrade →
    request.headers.getAll name = request'.headers.getAll name
  connection : ∀ e, e ∈ listElements (fieldList request.headers .connection) ↔
    e ∈ listElements (fieldList request'.headers .connection)
  upgrade : ∀ e, e ∈ listElements (fieldList request.headers .upgrade) ↔
    e ∈ listElements (fieldList request'.headers .upgrade)

theorem SameLists.classify_eq (h : SameLists request request') :
    classify request = classify request' := by
  have hconnection : containsToken request.headers .connection "upgrade"
      = containsToken request'.headers .connection "upgrade" := by
    rw [Bool.eq_iff_iff, containsToken_iff (by decide) (by decide),
      containsToken_iff (by decide) (by decide)]
    exact h.connection _
  have hupgrade : containsToken request.headers .upgrade "websocket"
      = containsToken request'.headers .upgrade "websocket" := by
    rw [Bool.eq_iff_iff, containsToken_iff (by decide) (by decide),
      containsToken_iff (by decide) (by decide)]
    exact h.upgrade _
  unfold classify
  rw [h.protocol, h.method, h.version, hconnection, hupgrade]

theorem SameLists.requestHeaders_same (h : SameLists request request')
    (transport : WebSocketTransport) :
    (requestHeaders request.headers transport).Same
      (requestHeaders request'.headers transport) := by
  have hkeeps : ∀ name, keepsRequestHeader (connectionTokens request.headers) name
      = keepsRequestHeader (connectionTokens request'.headers) name := by
    intro name
    have htokens : (connectionTokens request.headers).contains name.text
        = (connectionTokens request'.headers).contains name.text := by
      rw [Bool.eq_iff_iff, List.contains_iff_mem, List.contains_iff_mem, connectionTokens_eq,
        connectionTokens_eq]
      exact h.connection _
    rw [keepsRequestHeader_eq, keepsRequestHeader_eq, htokens]
  intro name
  rw [getAll_requestHeaders, getAll_requestHeaders, hkeeps name]
  by_cases hkeep : keepsRequestHeader (connectionTokens request'.headers) name = true
  · have hendToEnd := (keepsRequestHeader_iff.mp hkeep).1
    have hconnection : name ≠ .connection := fun he => not_endToEnd_connection (he ▸ hendToEnd)
    have hupgrade : name ≠ .upgrade := fun he => not_endToEnd_upgrade (he ▸ hendToEnd)
    rw [h.headers name hconnection hupgrade]
  · rw [if_neg hkeep, if_neg hkeep]

/-- **`Connection` and `Upgrade` are read as one comma list each**: requests whose lists have
the same elements are classified alike and forwarded with the same headers, and the two
tokenisers agree on `Connection`. -/
theorem lists_read_alike (h : SameLists request request') :
    classify request = classify request' ∧
    (∀ transport, (requestHeaders request.headers transport).Same
      (requestHeaders request'.headers transport)) ∧
    ∀ token, token ≠ [] → toAsciiLowercase token = token →
      (containsToken request.headers .connection token = true ↔
        token ∈ connectionTokens request.headers) := by
  refine ⟨h.classify_eq, h.requestHeaders_same, fun token hne hlower => ?_⟩
  rw [containsToken_iff hne hlower, connectionTokens_eq]

/-- The sample handshake in another spelling. -/
def respelledHandshake : Request :=
  { sampleHandshake with
    headers := ((sampleHandshake.headers.insert .connection (.fromStatic "upgrade")).append
      .connection (.fromStatic " ,KEEP-ALIVE , upgrade")).insert .upgrade
        (.fromStatic "\t, websocket") }

theorem sameLists_respelled : SameLists sampleHandshake respelledHandshake := by
  have hconnection : listElements (fieldList sampleHandshake.headers .connection)
      = (["keep-alive", "upgrade"] : List Str) := by decide
  have hrespelled : listElements (fieldList respelledHandshake.headers .connection)
      = (["upgrade", "keep-alive", "upgrade"] : List Str) := by decide
  have hupgrade : listElements (fieldList sampleHandshake.headers .upgrade)
      = listElements (fieldList respelledHandshake.headers .upgrade) := by decide
  refine ⟨rfl, rfl, rfl, fun name hc hu => ?_, fun e => ?_, fun e => by rw [hupgrade]⟩
  · unfold respelledHandshake
    rw [Multimap.getAll_insert, if_neg (Ne.symm hu), Multimap.getAll_append, if_neg (Ne.symm hc),
      Multimap.getAll_insert, if_neg (Ne.symm hc)]
  · rw [hconnection, hrespelled]
    rw [List.mem_cons, List.mem_singleton, List.mem_cons, List.mem_cons, List.mem_singleton]
    constructor
    · rintro (h | h)
      · exact Or.inr (Or.inl h)
      · exact Or.inl h
    · rintro (h | h | h)
      · exact Or.inr h
      · exact Or.inl h
      · exact Or.inr h

theorem lists_read_alike_respelled :
    classify sampleHandshake = .webSocket .http1 ∧
      classify sampleHandshake = classify respelledHandshake :=
  ⟨by decide, (lists_read_alike sameLists_respelled).1⟩

/-! ### Rewriting twice -/

/-- The rewrite of a handshake's headers, of which there is one for each direction: what it
keeps besides the nominated names is the parameter. -/
def rewriteHandshake (keeps : HeaderName → Bool) (source : HeaderMap)
    (transport : WebSocketTransport) : HeaderMap :=
  withUpgradePair (source.retain fun name =>
    keeps name && !(connectionTokens source).contains name.text) transport

theorem requestHeaders_eq (source : HeaderMap) (transport : WebSocketTransport) :
    requestHeaders source transport = rewriteHandshake keepsPlainHeader source transport := by
  unfold requestHeaders rewriteHandshake
  congr 2
  funext name
  exact keepsRequestHeader_eq _ name

theorem responseHeaders_eq (source : HeaderMap) (transport : WebSocketTransport) :
    responseHeaders source transport
      = rewriteHandshake (keepsResponseHeader []) source transport := by
  unfold responseHeaders rewriteHandshake
  congr 2
  funext name
  unfold keepsResponseHeader
  rw [List.contains_nil, Bool.not_false, Bool.and_true]

variable {keeps : HeaderName → Bool}

theorem getAll_rewriteHandshake (source : HeaderMap) (transport : WebSocketTransport)
    (name : HeaderName) :
    (rewriteHandshake keeps source transport).getAll name =
      if transport = .http1 ∧ name = .connection then [.fromStatic "Upgrade"]
      else if transport = .http1 ∧ name = .upgrade then [.fromStatic "websocket"]
      else if keeps name && !(connectionTokens source).contains name.text
        then source.getAll name else [] := by
  unfold rewriteHandshake
  rw [getAll_withUpgradePair, Multimap.getAll_retain]

theorem getAll_rewriteHandshake_http1 (keeps : HeaderName → Bool) (source : HeaderMap) :
    (rewriteHandshake keeps source .http1).getAll .connection = [.fromStatic "Upgrade"] ∧
      (rewriteHandshake keeps source .http1).getAll .upgrade = [.fromStatic "websocket"] :=
  getAll_withUpgradePair_http1 _

/-- What is kept of the two headers is nothing. -/
def DropsPair (keeps : HeaderName → Bool) : Prop :=
  keeps .connection = false ∧ keeps .upgrade = false

theorem dropsPair_request : DropsPair keepsPlainHeader := by
  unfold DropsPair
  decide

theorem dropsPair_response : DropsPair (keepsResponseHeader []) := by
  unfold DropsPair
  decide

theorem DropsPair.eq_false (h : DropsPair keeps) {name : HeaderName}
    (hname : name = .connection ∨ name = .upgrade) : keeps name = false := by
  rcases hname with rfl | rfl
  · exact h.1
  · exact h.2

theorem getAll_rewriteHandshake_http2 (h : DropsPair keeps) (source : HeaderMap)
    {name : HeaderName} (hname : name = .connection ∨ name = .upgrade) :
    (rewriteHandshake keeps source .http2).getAll name = [] := by
  rw [getAll_rewriteHandshake, h.eq_false hname]
  simp

/-- Rewritten headers nominate `upgrade` at most. -/
theorem connectionTokens_rewriteHandshake (h : DropsPair keeps) (source : HeaderMap)
    (transport : WebSocketTransport) :
    connectionTokens (rewriteHandshake keeps source transport) = match transport with
      | .http1 => ["upgrade"]
      | .http2 => [] := by
  unfold connectionTokens
  cases transport with
  | http1 =>
      rw [(getAll_rewriteHandshake_http1 keeps source).1]
      decide
  | http2 =>
      rw [getAll_rewriteHandshake_http2 h source (Or.inl rfl)]
      rfl

/-- **A second rewrite forgets the first.** -/
theorem rewriteHandshake_same (h : DropsPair keeps) (source : HeaderMap)
    (t u : WebSocketTransport) :
    (rewriteHandshake keeps (rewriteHandshake keeps source t) u).Same
      (rewriteHandshake keeps source u) := by
  intro name
  rw [getAll_rewriteHandshake, getAll_rewriteHandshake source u]
  by_cases hname : name = .connection ∨ name = .upgrade
  · rw [h.eq_false hname, Bool.false_and, Bool.false_and]
    simp only [Bool.false_eq_true, if_false]
  · rw [not_or] at hname
    have hpair : ∀ v : WebSocketTransport, ¬(v = .http1 ∧ name = .connection) ∧
        ¬(v = .http1 ∧ name = .upgrade) :=
      fun v => ⟨fun hc => hname.1 hc.2, fun hu => hname.2 hu.2⟩
    -- the only name the first rewrite nominates is one that neither rewrite keeps
    have hnominated : (connectionTokens (rewriteHandshake keeps source t)).contains name.text
        = false := by
      rw [connectionTokens_rewriteHandshake h, ← Bool.not_eq_true, List.contains_iff_mem]
      intro hmem
      cases t with
      | http2 => exact List.not_mem_nil hmem
      | http1 => exact hname.2 (HeaderName.ext (List.mem_singleton.mp hmem))
    rw [if_neg (hpair u).1, if_neg (hpair u).2, if_neg (hpair u).1, if_neg (hpair u).2,
      hnominated, Bool.not_false, Bool.and_true, getAll_rewriteHandshake source t,
      if_neg (hpair t).1, if_neg (hpair t).2]
    by_cases hkeeps : keeps name = true
    · rw [if_pos hkeeps]
    · have hfalse : keeps name = false := Bool.eq_false_iff.mpr hkeeps
      rw [if_neg hkeeps, hfalse, Bool.false_and]
      rfl

/-- The fresh pair is a handshake. -/
theorem isWebsocketUpgrade_of_pair (hconnection : headers.getAll .connection
    = [.fromStatic "Upgrade"]) (hupgrade : headers.getAll .upgrade = [.fromStatic "websocket"]) :
    isWebsocketUpgrade headers = true := by
  unfold isWebsocketUpgrade containsToken
  rw [hconnection, hupgrade]
  decide

theorem isWebsocketUpgrade_rewriteHandshake (source : HeaderMap) :
    isWebsocketUpgrade (rewriteHandshake keeps source .http1) = true := by
  obtain ⟨hconnection, hupgrade⟩ := getAll_rewriteHandshake_http1 keeps source
  exact isWebsocketUpgrade_of_pair hconnection hupgrade

/-- A GET over HTTP/1.1 that asks for the upgrade is a handshake. -/
theorem classify_of_isWebsocketUpgrade (hmethod : request.method = .get)
    (hversion : request.version = .http11) (hprotocol : request.protocol = none)
    (h : isWebsocketUpgrade request.headers = true) : classify request = .webSocket .http1 := by
  obtain ⟨hconnection, hupgrade⟩ := Bool.and_eq_true_iff.mp h
  unfold classify
  rw [hprotocol]
  simp only [hconnection, hupgrade]
  exact (if_neg (by decide)).trans (if_pos ⟨hmethod, hversion, trivial, trivial⟩)

theorem classify_rewritten {source : HeaderMap} (hmethod : request.method = .get)
    (hversion : request.version = .http11) (hprotocol : request.protocol = none)
    (hsame : request.headers.Same (rewriteHandshake keeps source .http1)) :
    classify request = .webSocket .http1 := by
  obtain ⟨hconnection, hupgrade⟩ := getAll_rewriteHandshake_http1 keeps source
  exact classify_of_isWebsocketUpgrade hmethod hversion hprotocol
    (isWebsocketUpgrade_of_pair ((hsame _).trans hconnection) ((hsame _).trans hupgrade))

/-- **Rewriting handshake headers is a projection onto valid handshakes**: a second rewrite
forgets the first, what comes out for HTTP/1.1 is a handshake to the next hop, and for HTTP/2
neither header is left. -/
theorem handshake_rewrite_projects (source : HeaderMap) :
    (∀ t u, (requestHeaders (requestHeaders source t) u).Same (requestHeaders source u)) ∧
    (∀ t u, (responseHeaders (responseHeaders source t) u).Same (responseHeaders source u)) ∧
    isWebsocketUpgrade (requestHeaders source .http1) = true ∧
    isWebsocketUpgrade (responseHeaders source .http1) = true ∧
    (∀ request : Request, request.method = .get → request.version = .http11 →
      request.protocol = none →
        (request.headers.Same (requestHeaders source .http1) ∨
          request.headers.Same (responseHeaders source .http1)) →
          classify request = .webSocket .http1) ∧
    ∀ name, name = .connection ∨ name = .upgrade →
      (requestHeaders source .http2).getAll name = [] ∧
        (responseHeaders source .http2).getAll name = [] := by
  simp only [requestHeaders_eq, responseHeaders_eq]
  refine ⟨rewriteHandshake_same dropsPair_request source,
    rewriteHandshake_same dropsPair_response source, isWebsocketUpgrade_rewriteHandshake source,
    isWebsocketUpgrade_rewriteHandshake source, ?_, fun name hname => ?_⟩
  · intro request hmethod hversion hprotocol hsame
    rcases hsame with hsame | hsame
    · exact classify_rewritten hmethod hversion hprotocol hsame
    · exact classify_rewritten hmethod hversion hprotocol hsame
  · exact ⟨getAll_rewriteHandshake_http2 dropsPair_request source hname,
      getAll_rewriteHandshake_http2 dropsPair_response source hname⟩

/-- Headers whose `Connection` nominates itself, `Upgrade` and a handshake header. -/
theorem handshake_rewrite_projects_hostile :
    classify (sampleRequest .get .http11 ((requestHeaders (.collect
      [(.connection, .fromStatic "connection, Upgrade, sec-websocket-key"),
        (.upgrade, .fromStatic "h2c")]) .http1).iter)) = .webSocket .http1 ∧
    (requestHeaders (requestHeaders sampleHandshake.headers .http1) .http2).Same
      (requestHeaders sampleHandshake.headers .http2) :=
  ⟨by decide, (handshake_rewrite_projects sampleHandshake.headers).1 .http1 .http2⟩

end TlsPlus
