/-
Which responses carry a JA4.

A JA4 of the outbound connection can only come from the diagnostics endpoint, and
only if it looks like one.  The recogniser splits at underscores and measures the
parts in bytes; `isValidJa4_iff` says what it accepts without either, since the
characters it lets through take one byte each and are no underscores.

A response leaves the retry loop by several routes.  All but one make it an error,
with status 0 and no JA4, so the one where a body was read decides.
-/
import TlsPlus.Proofs.Proxy.Server.Send

namespace TlsPlus

open Text

variable {Client : Type}

/-! ### Well-formed values -/

/-- Exactly `n` characters, each of the class. -/
def Word (n : Nat) (p : Char → Bool) (s : Str) : Prop := s.length = n ∧ ∀ c ∈ s, p c = true

/-- Ten ASCII letters or digits, and twice an underscore and twelve ASCII hex digits. -/
def WellFormedJa4 (v : Str) : Prop :=
  ∃ hello ciphers extensions, v = hello ++ '_' :: ciphers ++ '_' :: extensions ∧
    Word 10 Char.isAlphanum hello ∧ Word 12 Char.isHexDigit ciphers ∧
    Word 12 Char.isHexDigit extensions

theorem isAlphanum_of_isHexDigit {c : Char} (h : c.isHexDigit = true) : c.isAlphanum = true := by
  rw [isHexDigit_iff] at h
  rw [isAlphanum_iff]
  omega

/-- Letters and digits take a byte each. -/
theorem byteLength_of_isAlphanum {s : Str} (h : ∀ c ∈ s, c.isAlphanum = true) :
    byteLength s = s.length := by
  refine byteLength_of_ascii fun c hc => ?_
  have hclass := isAlphanum_iff.mp (h c hc)
  omega

theorem Word.byteLength {n : Nat} {p : Char → Bool} {s : Str} (h : Word n p s)
    (hp : ∀ c, p c = true → c.isAlphanum = true) : byteLength s = n := by
  rw [byteLength_of_isAlphanum fun c hc => hp c (h.2 c hc), h.1]

theorem Word.underscore_not_mem {n : Nat} {p : Char → Bool} {s : Str} (h : Word n p s)
    (hp : ∀ c, p c = true → c.isAlphanum = true) : '_' ∉ s :=
  fun hmem => absurd (hp '_' (h.2 '_' hmem)) (by decide)

/-- A text of hex digits with twelve bytes has twelve characters. -/
theorem word_of_byteLength {n : Nat} {p : Char → Bool} {s : Str}
    (hp : ∀ c, p c = true → c.isAlphanum = true) (hbytes : byteLength s = n)
    (hall : s.all p = true) : Word n p s := by
  rw [List.all_eq_true] at hall
  refine ⟨?_, hall⟩
  rw [← byteLength_of_isAlphanum fun c hc => hp c (hall c hc), hbytes]

/-- **What the recogniser accepts**, among all texts. -/
theorem isValidJa4_iff (v : Str) : isValidJa4 v = true ↔ WellFormedJa4 v := by
  have hparts : ∀ a b c : Str, ['_'].intercalate [a, b, c] = a ++ '_' :: b ++ '_' :: c := by
    intro a b c
    simp [List.intercalate_cons_cons]
  have hhex : ∀ c : Char, c.isHexDigit = true → c.isAlphanum = true :=
    fun c => isAlphanum_of_isHexDigit
  have hself : ∀ c : Char, c.isAlphanum = true → c.isAlphanum = true := fun _ h => h
  constructor
  · intro h
    unfold isValidJa4 at h
    split at h
    · rename_i hello ciphers extensions hsplit
      simp only [Bool.and_eq_true, decide_eq_true_eq, List.all_cons, List.all_nil] at h
      obtain ⟨⟨⟨hlength, -⟩, hword⟩, ⟨hlength', hword'⟩, ⟨hlength'', hword''⟩, -⟩ := h
      refine ⟨hello, ciphers, extensions, ?_, word_of_byteLength hself hlength hword,
        word_of_byteLength hhex hlength' hword', word_of_byteLength hhex hlength'' hword''⟩
      have hjoin : ['_'].intercalate (v.splitOn '_') = v := List.intercalate_splitOn '_'
      rw [← hjoin, hsplit, hparts]
    · exact absurd h (by decide)
  · intro ⟨hello, ciphers, extensions, hv, hword, hword', hword''⟩
    have hsplit : v.splitOn '_' = [hello, ciphers, extensions] := by
      rw [hv, ← hparts]
      refine List.splitOn_intercalate '_' ?_ (by simp)
      simp only [List.mem_cons, List.not_mem_nil, or_false, forall_eq_or_imp, forall_eq]
      exact ⟨hword.underscore_not_mem hself, hword'.underscore_not_mem hhex,
        hword''.underscore_not_mem hhex⟩
    have hascii : ∀ c ∈ hello, c.toNat < 128 := by
      intro c hc
      have hclass := isAlphanum_iff.mp (hword.2 c hc)
      omega
    unfold isValidJa4
    simp only [hsplit, Bool.and_eq_true, decide_eq_true_eq, List.all_cons, List.all_nil,
      List.all_eq_true]
    exact ⟨⟨⟨hword.byteLength hself, hascii⟩, hword.2⟩, ⟨hword'.byteLength hhex, hword'.2⟩,
      ⟨hword''.byteLength hhex, hword''.2⟩, trivial⟩

/-! ### The trusted endpoint -/

/-- `https://tls.peet.ws/api/all`, its host in any letter case and perhaps with port 443. -/
structure TrustedEndpoint (uri : Uri) : Prop where
  scheme : uri.scheme = some ("https" : Str)
  host : ∃ host, uri.host = some host ∧ eqIgnoreAsciiCase host "tls.peet.ws" = true
  port : uri.port = none ∨ uri.port = some 443
  path : uri.path = "/api/all"
  query : uri.query = none

/-- The endpoint by the tests that the code makes of it. -/
theorem trustedEndpoint_iff {uri : Uri} :
    TrustedEndpoint uri ↔
      uri.scheme = some ("https" : Str) ∧
      (uri.host.any fun host => eqIgnoreAsciiCase host tlsDiagnosticAuthority) = true ∧
      (uri.port.any fun port => port ≠ 443) = false ∧
      uri.path = tlsDiagnosticPath ∧ uri.query.isSome = false := by
  have hhost : (uri.host.any fun host => eqIgnoreAsciiCase host tlsDiagnosticAuthority) = true ↔
      ∃ host, uri.host = some host ∧ eqIgnoreAsciiCase host "tls.peet.ws" = true :=
    Option.any_eq_true _ _
  have hport : (uri.port.any fun port => port ≠ 443) = false ↔
      uri.port = none ∨ uri.port = some 443 := by
    cases uri.port with
    | none => simp
    | some port => simp
  have hquery : uri.query.isSome = false ↔ uri.query = none := by
    rw [← Bool.not_eq_true, Option.not_isSome_iff_eq_none]
  rw [hhost, hport, hquery]
  exact ⟨fun h => ⟨h.scheme, h.host, h.port, h.path, h.query⟩,
    fun ⟨hscheme, hhost, hport, hpath, hquery⟩ => ⟨hscheme, hhost, hport, hpath, hquery⟩⟩

/-- **The JA4 of a response**: all tests of status and URI, then the value in the body. -/
theorem diagnosticJa4_eq_some {w : ForwardWorld Client} {uri : Uri} {status : StatusCode}
    {body : List UInt8} {v : Str} :
    diagnosticJa4 w uri status body = some v ↔
      status.isSuccess = true ∧ TrustedEndpoint uri ∧ w.decodeDiagnostic body = some v ∧
        WellFormedJa4 v := by
  rw [trustedEndpoint_iff, ← isValidJa4_iff]
  unfold diagnosticJa4
  split
  · rename_i hrefused
    refine iff_of_false (by simp) ?_
    intro ⟨hsuccess, ⟨hscheme, hhost, hport, hpath, hquery⟩, _⟩
    rw [hsuccess, hhost, hport, hquery] at hrefused
    simp [hscheme, hpath] at hrefused
  · rename_i hpassed
    simp only [Bool.or_eq_true, Bool.not_eq_true', decide_eq_true_eq, not_or, not_not,
      Bool.not_eq_false, Bool.not_eq_true] at hpassed
    obtain ⟨⟨⟨⟨⟨hsuccess, hscheme⟩, hhost⟩, hport⟩, hpath⟩, hquery⟩ := hpassed
    rw [and_iff_right hsuccess, and_iff_right ⟨hscheme, hhost, hport, hpath, hquery⟩]
    cases hdecode : w.decodeDiagnostic body with
    | none => simp
    | some ja4 =>
        rw [Option.some.injEq]
        by_cases hvalid : isValidJa4 ja4 = true
        · simp only [if_pos hvalid, Option.some.injEq]
          exact ⟨fun hv => ⟨hv, hv ▸ hvalid⟩, fun h => h.1⟩
        · simp only [if_neg hvalid]
          exact iff_of_false (by simp) fun ⟨hv, hvalid'⟩ => hvalid (hv ▸ hvalid')

/-! ### Every route out of the loop -/

/-- What a JA4 in a response to this request means. -/
def CarriesJa4 (w : ForwardWorld Client) (request : ProxyRequest) (response : ProxyResponse)
    (v : Str) : Prop :=
  (200 ≤ response.statusCode ∧ response.statusCode < 300) ∧
    (∃ uri, w.parseUri request.url = .ok uri ∧ TrustedEndpoint uri) ∧
    w.decodeDiagnostic response.body = some v ∧ WellFormedJa4 v

/-- An error carries none, and its status is no success. -/
theorem failedResponse_ja4 (w : ForwardWorld Client) (request : ProxyRequest) (error v : Str) :
    (failedResponse request.id error).ja4 = some v ↔
      CarriesJa4 w request (failedResponse request.id error) v := by
  refine iff_of_false (by simp [failedResponse]) ?_
  intro hcarries
  have hstatus : 200 ≤ 0 := hcarries.1.1
  omega

theorem report_ja4 {w : ForwardWorld Client} {request : ProxyRequest} {uri : Uri}
    (huri : w.parseUri request.url = .ok uri) (attempt : Nat) (v : Str) :
    (request.report w uri attempt).ja4 = some v ↔
      CarriesJa4 w request (request.report w uri attempt) v := by
  unfold ProxyRequest.report
  split
  · rename_i response _
    split
    · rename_i body _
      show diagnosticJa4 w uri response.status body = some v ↔ _
      rw [diagnosticJa4_eq_some, StatusCode.isSuccess_iff]
      constructor
      · intro ⟨hsuccess, htrusted, hvalue⟩
        exact ⟨hsuccess, ⟨uri, huri, htrusted⟩, hvalue⟩
      · intro ⟨hsuccess, ⟨uri', huri', htrusted⟩, hvalue⟩
        rw [huri] at huri'
        obtain rfl : uri = uri' := Except.ok.inj huri'
        exact ⟨hsuccess, htrusted, hvalue⟩
    · exact failedResponse_ja4 w request _ v
  · exact failedResponse_ja4 w request _ v
  · exact failedResponse_ja4 w request _ v

/-- **Only the trusted endpoint sets a JA4, and only to a well-formed value.** A response has one
exactly if it is a success, its request's URI is the diagnostics endpoint and its body decodes to
that value, which then has the form of a JA4. -/
theorem ja4_reported_iff (runtime : Except Str Unit) (w : ForwardWorld Client)
    (request : ProxyRequest) (v : Str) :
    let response := (proxySendRequest runtime w request).response
    response.ja4 = some v ↔ CarriesJa4 w request response v := by
  intro response
  rcases proxySendRequest_cases runtime w request with
    ⟨error, hfailed⟩ | ⟨client, uri, method, hpasses⟩
  · have hresponse : response = failedResponse request.id error :=
      congrArg Answered.response hfailed
    rw [hresponse]
    exact failedResponse_ja4 w request error v
  · obtain ⟨last, hlast⟩ := exists_last w (maxRetries method request.body)
    have hresponse : response = request.report w uri last :=
      congrArg Answered.response (proxySendRequest_of_passes hpasses hlast)
    rw [hresponse]
    exact report_ja4 hpasses.uri last v

/-- The diagnostics endpoint answers what it has seen. -/
def trustedUpstream : ForwardWorld Nat where
  getWreqClient _ := .ok 1
  parseUri target :=
    if target = ("https://TLS.peet.ws:443/api/all" : Str) then
      .ok ⟨some "https", some "TLS.peet.ws:443", some "TLS.peet.ws", some 443, "/api/all", none⟩
    else .error "invalid uri character"
  parseMethod _ := .ok .get
  displayStatus status := decimal status.code
  decodeDiagnostic body := if body = [] then none else some "t13d3112h2_e8f1e7e78f70_b26ce05bbdd6"
  attempt _ := .response ⟨.ok, .empty, .ok [123, 125]⟩

def trustedRequest : ProxyRequest where
  id := "21"
  method := "GET"
  url := "https://TLS.peet.ws:443/api/all"
  headers := []
  body := []
  profile := "pass-through"
  timeoutSecs := 30

/-- Its answer is reported, and carries the JA4 in the sense above. -/
theorem ja4_reported_iff_trusted :
    let response := (proxySendRequest (.ok ()) trustedUpstream trustedRequest).response
    response.ja4 = some "t13d3112h2_e8f1e7e78f70_b26ce05bbdd6" ∧
      CarriesJa4 trustedUpstream trustedRequest response
        "t13d3112h2_e8f1e7e78f70_b26ce05bbdd6" := by
  intro response
  have hreported : response.ja4 = some "t13d3112h2_e8f1e7e78f70_b26ce05bbdd6" := by decide
  exact ⟨hreported, (ja4_reported_iff (.ok ()) trustedUpstream trustedRequest _).mp hreported⟩

end TlsPlus
