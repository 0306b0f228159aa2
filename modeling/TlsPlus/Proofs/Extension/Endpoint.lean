/-
The handler finds the proxy, and does not send it to itself.

The server prints the address it listens on, and the handler parses that text to
redirect requests there, all but those that are for the proxy already.  Printing and
parsing are each other's inverse on loopback addresses (`parseProxyAddr_display`).

Whether a request is for the proxy is decided by comparing host texts after some
rewriting.  The rewriting can make a host equal to the proxy's in few ways:
`sameEndpointHost_iff` says that a request is held back for its host exactly if that
is the proxy's own, `localhost`, or the long form of `::1`.
-/
import TlsPlus.Net
import TlsPlus.Proofs.Extension.HttpHandler

namespace TlsPlus

open Text

variable {Message : Type} {mo : Montoya Message} {k : Kotlin} {settings : Preferences}
  {m : Message}

/-! ### What is relied on -/

/-- On ASCII, `lowercase` changes capital letters only, and digits have their values. -/
structure Kotlin.Lawful (k : Kotlin) : Prop where
  lowercase : ∀ s : Str, (∀ c ∈ s, c.toNat < 128) → k.lowercase s = toAsciiLowercase s
  digit : ∀ c : Char, c.isDigit = true → k.digit c = some (c.toNat - 48)

/-- A request made for a service is for that service, and its headers have no part in that. -/
structure Montoya.Routes (mo : Montoya Message) : Prop where
  http2Request : ∀ service m, mo.httpService (mo.http2Request service m) = service
  withService : ∀ m service, mo.httpService (mo.withService m service) = service
  withHeader : ∀ m name value, mo.httpService (mo.withHeader m name value) = mo.httpService m
  withRemovedHeader : ∀ m name, mo.httpService (mo.withRemovedHeader m name) = mo.httpService m

/-! ### Addresses of the server -/

/-- The address as it stands before the port. -/
def IpAddr.text : IpAddr → Str
  | .v4 a b c d => displayV4 a b c d
  | .v6 segments _ => displayV6 segments.toList

/-- An address the server can run at: a loopback address, without a scope, and a port that is
not 0. -/
structure SocketAddr.Listens (addr : SocketAddr) : Prop where
  loopback : addr.ip.isLoopback = true
  unscoped : ∀ segments scopeId, addr.ip = .v6 segments scopeId → scopeId = 0
  port : addr.port ≠ 0

/-- The text of an IPv4 loopback address: digits and dots, from `127.` on. -/
structure LoopbackV4 (host : Str) : Prop where
  front : ("127." : Str) <+: host
  chars : ∀ c ∈ host, c.isDigit = true ∨ c = '.'

theorem loopbackV4_displayV4 {a b c d : UInt8} (ha : a = 127) :
    LoopbackV4 (IpAddr.displayV4 a b c d) := by
  refine ⟨⟨decimal b.toNat ++ "." ++ decimal c.toNat ++ "." ++ decimal d.toNat, ?_⟩, ?_⟩
  · have hfirst : decimal (127 : UInt8).toNat = "127" := by decide
    rw [ha, IpAddr.displayV4, hfirst]
    simp
  · intro e he
    simp only [IpAddr.displayV4, List.mem_append] at he
    have hdot : ∀ f ∈ ("." : Str), f = '.' := by simp
    rcases he with (((((he | he) | he) | he) | he) | he) | he
    · exact Or.inl (isDigit_of_mem_decimal he)
    · exact Or.inr (hdot e he)
    · exact Or.inl (isDigit_of_mem_decimal he)
    · exact Or.inr (hdot e he)
    · exact Or.inl (isDigit_of_mem_decimal he)
    · exact Or.inr (hdot e he)
    · exact Or.inl (isDigit_of_mem_decimal he)

/-- **A server's address is printed in one of two ways.** -/
theorem SocketAddr.Listens.cases {addr : SocketAddr} (h : addr.Listens) :
    (LoopbackV4 addr.ip.text ∧ addr.display = addr.ip.text ++ ':' :: decimal addr.port.toNat) ∨
      (addr.ip.text = "::1" ∧ addr.display = "[::1]:" ++ decimal addr.port.toNat) := by
  obtain ⟨ip, port⟩ := addr
  have hloopback := h.loopback
  cases ip with
  | v4 a b c d =>
      refine Or.inl ⟨loopbackV4_displayV4 (of_decide_eq_true hloopback), ?_⟩
      show IpAddr.displayV4 a b c d ++ ":" ++ decimal port.toNat = _
      rw [List.append_assoc]
      rfl
  | v6 segments scopeId =>
      have hscope : scopeId = 0 := h.unscoped segments scopeId rfl
      have hsegments : segments.toList = [0, 0, 0, 0, 0, 0, 0, 1] := of_decide_eq_true hloopback
      have htext : IpAddr.displayV6 segments.toList = "::1" := by
        rw [hsegments]
        decide
      refine Or.inr ⟨htext, ?_⟩
      unfold SocketAddr.display
      simp only [htext, if_pos hscope]
      rfl

/-! ### The texts of loopback hosts -/

namespace LoopbackV4

variable {host : Str}

theorem not_mem (h : LoopbackV4 host) {c : Char} (hdigit : c.isDigit = false) (hdot : c ≠ '.') :
    c ∉ host := by
  intro hmem
  rcases h.chars c hmem with hc | hc
  · exact Bool.false_ne_true (hdigit.symm.trans hc)
  · exact hdot hc

theorem ne_nil (h : LoopbackV4 host) : host ≠ [] := by
  obtain ⟨rest, rfl⟩ := h.front
  simp

theorem lower (h : LoopbackV4 host) (hk : k.Lawful) : k.lowercase host = host := by
  have hrange : ∀ c ∈ host, c.toNat < 65 := by
    intro c hc
    rcases h.chars c hc with hdigit | rfl
    · have hdigits := isDigit_iff.mp hdigit
      omega
    · decide
  rw [hk.lowercase host fun c hc => by have := hrange c hc; omega]
  refine (List.map_congr_left fun c hc => ?_).trans (List.map_id host)
  have hc := hrange c hc
  rw [← Char.toNat_inj, toNat_toLower, if_neg (by omega)]
  rfl

end LoopbackV4

/-- A host text that is in no brackets and has no capital letters is its own normal form. -/
theorem normalizeHost_eq_self {host : Str} (hopen : ¬("[" : Str).isPrefixOf host = true)
    (hclose : ¬("]" : Str).isSuffixOf host = true) (hlower : k.lowercase host = host) :
    normalizeHost k host = host := by
  unfold normalizeHost
  simp only [if_neg hopen, if_neg hclose, hlower]

theorem LoopbackV4.normalizeHost {host : Str} (h : LoopbackV4 host) (hk : k.Lawful) :
    normalizeHost k host = host := by
  have hopen : '[' ∉ host := h.not_mem (by decide) (by decide)
  have hclose : ']' ∉ host := h.not_mem (by decide) (by decide)
  refine normalizeHost_eq_self (fun hprefix => ?_) (fun hsuffix => ?_) (h.lower hk)
  · exact hopen ((List.isPrefixOf_iff_prefix.mp hprefix).mem (by simp))
  · exact hclose ((List.isSuffixOf_iff_suffix.mp hsuffix).mem (by simp))

theorem normalizeHost_loopbackV6 (hk : k.Lawful) : normalizeHost k "::1" = "::1" := by
  refine normalizeHost_eq_self (by decide) (by decide) ?_
  rw [hk.lowercase _ (by simp)]
  decide

/-! ### Parsing what was printed -/

/-- A port reads as the number it was printed from. -/
theorem toIntOrNull_decimal (hk : k.Lawful) {n : Nat} (hn : n ≤ 2147483647) :
    toIntOrNull k (decimal n) = some (n : Int) := by
  have hdigits : (decimal n).mapM k.digit = some ((decimal n).map fun c => c.toNat - 48) := by
    have hall : ∀ s : Str, (∀ c ∈ s, c.isDigit = true) →
        s.mapM k.digit = some (s.map fun c => c.toNat - 48) := by
      intro s
      induction s with
      | nil => exact fun _ => rfl
      | cons c rest ih =>
          intro hs
          rw [List.mapM_cons, hk.digit c (hs c List.mem_cons_self),
            ih fun d hd => hs d (List.mem_cons_of_mem c hd)]
          rfl
    exact hall _ fun c => isDigit_of_mem_decimal
  have hnumber : ((decimal n).map fun c => c.toNat - 48).foldl (fun n d => 10 * n + d) 0 = n := by
    rw [List.foldl_map]
    exact Nat.ofDigitChars_ten_toDigits
  obtain ⟨c, rest, hcons⟩ := List.exists_cons_of_ne_nil (decimal_ne_nil n)
  have hfirst : ¬c.toNat < 48 := by
    have hrange := isDigit_iff.mp (isDigit_of_mem_decimal (n := n) (c := c) (by simp [hcons]))
    omega
  rw [hcons] at hdigits hnumber ⊢
  unfold toIntOrNull
  simp only [if_neg hfirst, hdigits, hnumber, Int.one_mul]
  rw [if_pos (by omega)]

/-- A port of a server is read in full. -/
theorem parsePort (hk : k.Lawful) {addr : SocketAddr} (h : addr.Listens) {host : Str}
    (hhost : normalizeHost k host = host) :
    (match toIntOrNull k (decimal addr.port.toNat) with
      | some port =>
        if 1 ≤ port ∧ port ≤ 65535 then some (normalizeHost k host, port) else none
      | none => none) = some (host, (addr.port.toNat : Int)) := by
  have hlt : addr.port.toNat < 65536 := addr.port.toNat_lt
  have hpos : addr.port.toNat ≠ 0 := fun hzero => h.port (UInt16.toNat_inj.mp hzero)
  rw [toIntOrNull_decimal hk (by omega)]
  simp only [hhost]
  rw [if_pos (by omega)]

/-- **The handler reads the address that the server printed.** -/
theorem parseProxyAddr_display (hk : k.Lawful) {addr : SocketAddr} (h : addr.Listens) :
    parseProxyAddr k addr.display = some (addr.ip.text, (addr.port.toNat : Int)) := by
  rcases h.cases with ⟨hv4, hdisplay⟩ | ⟨htext, hdisplay⟩
  · have hopen : ¬("[" : Str).isPrefixOf addr.display = true := by
      obtain ⟨rest, hrest⟩ := hv4.front
      rw [hdisplay, ← hrest]
      exact Bool.false_ne_true
    have hcolon : lastIndexOf ':' addr.display = some addr.ip.text.length := by
      rw [hdisplay]
      exact lastIndexOf_append _ (not_mem_decimal (by decide) _)
    have hhost : addr.display.take addr.ip.text.length = addr.ip.text := by
      rw [hdisplay, List.take_left]
    have hport : addr.display.drop (addr.ip.text.length + 1) = decimal addr.port.toNat := by
      rw [hdisplay, ← List.drop_drop, List.drop_left]
      rfl
    unfold parseProxyAddr
    simp only [if_neg hopen, hcolon, if_pos (List.length_pos_of_ne_nil hv4.ne_nil), hhost, hport]
    exact parsePort hk h (hv4.normalizeHost hk)
  · rw [hdisplay, htext]
    exact parsePort hk h (normalizeHost_loopbackV6 hk)

/-! ### Which hosts are the proxy's -/

/-- A text without colons is reached by the rewriting from itself alone. -/
theorem shortened_iff {host t : Str} (ht : ':' ∉ t) :
    replaceAll "0:0:0:0:0:0:0:1" "::1" host = t ↔ host = t := by
  refine ⟨eq_of_replaceAll_eq (by decide) (by decide) ht, fun h => ?_⟩
  rw [h]
  exact replaceAll_of_not_mem (by decide) ht _

/-- `::1` is reached from itself and from its long form. -/
theorem shortened_loopback_iff {host : Str} :
    replaceAll "0:0:0:0:0:0:0:1" "::1" host = "::1" ↔
      host = "::1" ∨ host = "0:0:0:0:0:0:0:1" := by
  refine ⟨eq_of_replaceAll_eq_new (by decide) (by decide), fun h => ?_⟩
  rcases h with rfl | rfl
  · decide
  · decide

/-- The hosts of requests that are for the proxy: its own, `localhost`, or the long form of
`::1`. -/
def IsProxyHost (k : Kotlin) (proxyHost host : Str) : Prop :=
  normalizeHost k host = proxyHost ∨ normalizeHost k host = "localhost" ∨
    (proxyHost = "::1" ∧ normalizeHost k host = "0:0:0:0:0:0:0:1")

/-- **What the comparison of hosts decides**, for a proxy at a loopback address. -/
theorem sameEndpointHost_iff (hk : k.Lawful) {addr : SocketAddr} (h : addr.Listens)
    (host : Str) :
    sameEndpointHost k host addr.ip.text = true ↔ IsProxyHost k addr.ip.text host := by
  have hlocalhost : replaceAll "0:0:0:0:0:0:0:1" "::1" (normalizeHost k host) = "localhost" ↔
      normalizeHost k host = "localhost" := shortened_iff (by decide)
  unfold sameEndpointHost IsProxyHost
  simp only [Bool.or_eq_true, Bool.and_eq_true, decide_eq_true_eq]
  rcases h.cases with ⟨hv4, -⟩ | ⟨htext, -⟩
  · have hcolon : ':' ∉ addr.ip.text := hv4.not_mem (by decide) (by decide)
    have hproxy : replaceAll "0:0:0:0:0:0:0:1" "::1" addr.ip.text = addr.ip.text :=
      (shortened_iff hcolon).mpr rfl
    have hliteral : isLoopbackLiteral addr.ip.text = true := by
      unfold isLoopbackLiteral
      rw [List.isPrefixOf_iff_prefix.mpr hv4.front, Bool.or_true]
    have hnotLocalhost : addr.ip.text ≠ "localhost" := by
      intro heq
      have hfront := hv4.front
      rw [heq] at hfront
      exact absurd (List.isPrefixOf_iff_prefix.mpr hfront) (by decide)
    have hnotV6 : addr.ip.text ≠ "::1" := fun heq => hcolon (by rw [heq]; decide)
    rw [hv4.normalizeHost hk, hproxy, shortened_iff hcolon, hlocalhost]
    simp only [hliteral, hnotLocalhost, hnotV6, and_true, false_and, or_false]
  · have hproxy : replaceAll "0:0:0:0:0:0:0:1" "::1" ("::1" : Str) = "::1" := by decide
    have hliteral : isLoopbackLiteral "::1" = true := by decide
    have hnotLocalhost : ("::1" : Str) ≠ "localhost" := by decide
    rw [htext, normalizeHost_loopbackV6 hk, hproxy, shortened_loopback_iff, hlocalhost]
    simp only [hliteral, hnotLocalhost, and_true, false_and, or_false, true_and]
    rw [or_assoc, or_comm (a := normalizeHost k host = "0:0:0:0:0:0:0:1")]

/-! ### The handler -/

/-- A request the handler redirects is made for the proxy. -/
theorem httpService_withVersionMarker (hmo : mo.Routes) (service : HttpService) (m : Message) :
    mo.httpService (withVersionMarker mo service m) = service := by
  unfold withVersionMarker
  split
  · rw [hmo.withHeader, hmo.http2Request]
  · rw [hmo.withRemovedHeader, hmo.withService]

/-- A request that is for the proxy is left alone. -/
theorem handled_of_self {endpoint host : Str} {port : Int}
    (hparse : parseProxyAddr k endpoint = some (host, port))
    (hself : sameEndpointHost k (mo.httpService m).host host = true ∧
      (mo.httpService m).port = port) :
    handleHttpRequestToBeSent k mo settings (some endpoint) m = m := by
  unfold handleHttpRequestToBeSent redirected
  simp only [hparse]
  split
  · rfl
  · rw [if_pos (by simpa using hself), Option.getD_none]

/-- Any other is made for the proxy. -/
theorem handled_of_other (hmo : mo.Routes) (hpass : settings.passThroughOnly = false)
    {endpoint host : Str} {port : Int} (hparse : parseProxyAddr k endpoint = some (host, port))
    (hother : ¬(sameEndpointHost k (mo.httpService m).host host = true ∧
      (mo.httpService m).port = port)) :
    mo.httpService (handleHttpRequestToBeSent k mo settings (some endpoint) m)
      = ⟨host, port, false⟩ := by
  have hnot : ¬settings.passThroughOnly = true := by simp [hpass]
  unfold handleHttpRequestToBeSent redirected
  simp only [if_neg hnot, hparse]
  rw [if_neg (by simpa using hother), Option.getD_some, hmo.withHeader, hmo.withHeader,
    hmo.withHeader, httpService_withVersionMarker hmo]

/-- An endpoint that is no address leaves every request alone. -/
theorem handled_of_refused {endpoint : Str} (hparse : parseProxyAddr k endpoint = none)
    (m : Message) : handleHttpRequestToBeSent k mo settings (some endpoint) m = m := by
  unfold handleHttpRequestToBeSent redirected
  simp only [hparse]
  split <;> rfl

/-- **The proxy is found, and not sent to itself.** Whatever loopback address the server prints,
the handler reads its host and port from the text.  A request is left alone exactly if it is for
that port and for a host that is the proxy's own, `localhost`, or the long form of `::1`; every
other is made for that host and port.  An endpoint that cannot be read changes nothing. -/
theorem self_redirect_guard (hk : k.Lawful) (hmo : mo.Routes)
    (hpass : settings.passThroughOnly = false) {addr : SocketAddr} (haddr : addr.Listens)
    (m : Message) :
    parseProxyAddr k addr.display = some (addr.ip.text, (addr.port.toNat : Int)) ∧
    (handleHttpRequestToBeSent k mo settings (some addr.display) m = m ↔
      (mo.httpService m).port = addr.port.toNat ∧
        IsProxyHost k addr.ip.text (mo.httpService m).host) ∧
    (¬((mo.httpService m).port = addr.port.toNat ∧
        IsProxyHost k addr.ip.text (mo.httpService m).host) →
      mo.httpService (handleHttpRequestToBeSent k mo settings (some addr.display) m)
        = ⟨addr.ip.text, addr.port.toNat, false⟩) ∧
    ∀ endpoint, parseProxyAddr k endpoint = none →
      handleHttpRequestToBeSent k mo settings (some endpoint) m = m := by
  have hparse := parseProxyAddr_display hk haddr
  have hguard : sameEndpointHost k (mo.httpService m).host addr.ip.text = true ∧
      (mo.httpService m).port = addr.port.toNat ↔
        (mo.httpService m).port = addr.port.toNat ∧
          IsProxyHost k addr.ip.text (mo.httpService m).host := by
    rw [sameEndpointHost_iff hk haddr, and_comm]
  have hother := handled_of_other (m := m) hmo hpass hparse
  rw [hguard] at hother
  refine ⟨hparse, ⟨fun hsame => ?_, fun hproxy => handled_of_self hparse (hguard.mpr hproxy)⟩,
    hother, fun endpoint hrefused => handled_of_refused hrefused m⟩
  -- a request made for the proxy would be left alone
  by_contra hnot
  have hservice := hother hnot
  rw [hsame] at hservice
  rw [hservice] at hnot
  refine hnot ⟨rfl, Or.inl ?_⟩
  rcases haddr.cases with ⟨hv4, -⟩ | ⟨htext, -⟩
  · exact hv4.normalizeHost hk
  · rw [htext]
    exact normalizeHost_loopbackV6 hk

/-! ### A proxy on `::1` -/

theorem sampleKotlin_lawful : sampleKotlin.Lawful where
  lowercase _ _ := rfl
  digit _ hc := if_pos hc

theorem sampleMontoya_routes : sampleMontoya.Routes where
  http2Request _ _ := rfl
  withService _ _ := rfl
  withHeader _ _ _ := rfl
  withRemovedHeader _ _ := rfl

def sampleListener : SocketAddr := ⟨.v6 #v[0, 0, 0, 0, 0, 0, 0, 1] 0, 45678⟩

theorem sampleListener_listens : sampleListener.Listens where
  loopback := by decide
  unscoped _ _ h := (IpAddr.v6.inj h).2.symm
  port := by decide

def localRequest (host : Str) : SampleMessage :=
  ⟨⟨host, 45678, false⟩, "http://local/", "HTTP/1.1", []⟩

/-- `localhost` stands for a proxy on `::1`, and `127.0.0.1` does not. -/
theorem self_redirect_guard_localhost :
    handleHttpRequestToBeSent sampleKotlin sampleMontoya .empty (some sampleListener.display)
        (localRequest "LOCALHOST") = localRequest "LOCALHOST" ∧
      sampleMontoya.httpService (handleHttpRequestToBeSent sampleKotlin sampleMontoya .empty
        (some sampleListener.display) (localRequest "127.0.0.1")) = ⟨"::1", 45678, false⟩ := by
  have hpass : Preferences.empty.passThroughOnly = false := by decide
  obtain ⟨-, hself, -, -⟩ := self_redirect_guard sampleKotlin_lawful sampleMontoya_routes hpass
    sampleListener_listens (localRequest "LOCALHOST")
  obtain ⟨-, -, hother, -⟩ := self_redirect_guard sampleKotlin_lawful sampleMontoya_routes hpass
    sampleListener_listens (localRequest "127.0.0.1")
  have htext : sampleListener.ip.text = "::1" := by decide
  refine ⟨hself.mpr ⟨rfl, Or.inr (Or.inl (by decide))⟩, ?_⟩
  rw [htext] at hother
  refine hother fun hproxy => ?_
  rcases hproxy.2 with hhost | hhost | ⟨-, hhost⟩
  · exact absurd hhost (by decide)
  · exact absurd hhost (by decide)
  · exact absurd hhost (by decide)

end TlsPlus
