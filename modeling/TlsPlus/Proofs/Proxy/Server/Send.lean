/-
What a buffered call reports, and after how many attempts.

The loop returns what its last attempt met (`attempts_eq`).  An attempt after which
it goes on leaves nothing but the error text kept for the return after the loop, and
`not_fallsThrough` says that this return is never reached.

Success and failure take different routes to the response.  What they have in common
is `WellReported`: an error stands for itself, and a status code is never 0.
-/
import Mathlib.Tactic.IntervalCases
import TlsPlus.Proxy.Server.Send
import TlsPlus.Proofs.Proxy.Forward

namespace TlsPlus

open Text

variable {Client : Type} {w : ForwardWorld Client} {call : ForwardCall Client}

/-! ### The return after the loop -/

/-- The loop goes on after each of the attempts it has left, so that it is left at its end. -/
def FallsThrough (w : ForwardWorld Client) (call : ForwardCall Client) :
    (left attempt : Nat) → Prop
  | 0, _ => True
  | left + 1, attempt =>
    (∃ lastError, judge w call attempt = .continue lastError) ∧
      FallsThrough w call left (attempt + 1)

/-- A loop with more attempts left than the budget allows is not left at its end. -/
theorem not_fallsThrough (left : Nat) : ∀ attempt, call.maxRetries ≤ attempt + left →
    ¬FallsThrough w call (left + 1) attempt := by
  induction left with
  | zero =>
      intro attempt hleft hfalls
      have hcontinue := (judge_continue_iff w call attempt).mp hfalls.1
      omega
  | succ left ih =>
      intro attempt hleft hfalls
      exact ih (attempt + 1) (by omega) hfalls.2

/-! ### A call from end to end -/

/-- The call passes its checks and reaches the loop. -/
structure Passes (runtime : Except Str Unit) (w : ForwardWorld Client) (request : ProxyRequest)
    (client : Client) (uri : Uri) (method : Method) : Prop where
  runtime : runtime = .ok ()
  client : w.getWreqClient request.profile = .ok client
  uri : w.parseUri request.url = .ok uri
  method : w.parseMethod request.method = .ok method

def ProxyRequest.forwardCall (request : ProxyRequest) (client : Client) (uri : Uri)
    (method : Method) : ForwardCall Client where
  targetUrl := request.url
  profile := request.profile
  timeoutSecs := request.timeoutSecs
  request := ⟨client, method, uri, buildForwardHeaders request.headers, request.body⟩

/-- What an attempt's outcome is reported as. -/
def ProxyRequest.report (request : ProxyRequest) (w : ForwardWorld Client) (uri : Uri)
    (attempt : Nat) : ProxyResponse :=
  match w.attempt attempt with
  | .response response =>
    match response.body with
    | .ok body => {
        id := request.id
        statusCode := response.status.code
        headers := responseHeaderLines response.headers
        body := body
        ja4 := diagnosticJa4 w uri response.status body
        error := none }
    | .error e => failedResponse request.id ("Failed to read response body: " ++ e)
  | .error error =>
    failedResponse request.id ("Request to " ++ request.url ++ " failed (profile: " ++
      request.profile ++ "): " ++ error.message)
  | .timeout =>
    failedResponse request.id ("Request to " ++ request.url ++ " timed out after " ++
      debugSecs (effectiveTimeoutSecs request.timeoutSecs) ++ " (profile: " ++ request.profile ++
      ")")

/-- A response under its request's id that has an error exactly if its status is 0, and then
nothing else. -/
structure WellReported (id : Str) (response : ProxyResponse) : Prop where
  id : response.id = id
  error : response.error.isSome = true ↔ response.statusCode = 0
  failed : response.statusCode = 0 →
    response.headers = [] ∧ response.body = [] ∧ response.ja4 = none

theorem wellReported_failedResponse (id error : Str) :
    WellReported id (failedResponse id error) :=
  ⟨rfl, iff_of_true rfl rfl, fun _ => ⟨rfl, rfl, rfl⟩⟩

/-- Whatever an attempt meets is reported well: status codes start at 100. -/
theorem wellReported_report (request : ProxyRequest) (w : ForwardWorld Client) (uri : Uri)
    (attempt : Nat) : WellReported request.id (request.report w uri attempt) := by
  unfold ProxyRequest.report
  split
  · rename_i response _
    split
    · have hcode : response.status.code ≠ 0 := by
        have hrange := response.status.valid.1
        omega
      exact ⟨rfl, iff_of_false (by simp) hcode, fun hzero => absurd hzero hcode⟩
    · exact wellReported_failedResponse _ _
  · exact wellReported_failedResponse _ _
  · exact wellReported_failedResponse _ _

/-- The loop's result at an attempt, under the request's id, is the attempt's report. -/
theorem result_report (w : ForwardWorld Client) (request : ProxyRequest) (client : Client)
    (uri : Uri) (method : Method) (attempt : Nat) :
    (match (request.forwardCall client uri method).result w attempt with
      | .ok response => { response with id := request.id }
      | .error error => failedResponse request.id error) = request.report w uri attempt := by
  unfold ProxyRequest.report ForwardCall.result bufferResponse
  cases w.attempt attempt with
  | response response =>
      obtain ⟨status, headers, body⟩ := response
      cases body with
      | ok body => rfl
      | error e => rfl
  | error error => rfl
  | timeout => rfl

variable {runtime : Except Str Unit} {request : ProxyRequest} {client : Client} {uri : Uri}
  {method : Method}

/-- A call that passes its checks is the loop, and reports the last attempt. -/
theorem proxySendRequest_of_passes (h : Passes runtime w request client uri method) {last : Nat}
    (hlast : IsLeast {i | Ends w (maxRetries method request.body) i} last) :
    proxySendRequest runtime w request = {
      response := request.report w uri last
      sent := List.replicate (last + 1) (request.forwardCall client uri method).request
      sleeps := (List.range (last + 1)).flatMap backoff } := by
  have hforward : forwardRequest w request.url request.method request.headers request.body
      request.profile request.timeoutSecs
      = attempts w (request.forwardCall client uri method)
          (maxRetries method request.body + 1) 0 [] := by
    unfold forwardRequest
    rw [h.client, h.uri, h.method]
    rfl
  have hloop : attempts w (request.forwardCall client uri method)
      (maxRetries method request.body + 1) 0 [] = _ :=
    attempts_eq hlast _ 0 [] (Nat.zero_le last) (Nat.zero_add _)
  rw [← result_report w request client uri method, List.range_eq_range']
  unfold proxySendRequest sendRequest
  rw [h.runtime, hforward, hloop]
  rfl

/-- The milliseconds slept before the repetitions of a call. -/
theorem sum_backoff {last : Nat} (h : last ≤ 2) :
    ((List.range (last + 1)).flatMap backoff).sum
      = if last = 0 then 0 else if last = 1 then 100 else 500 := by
  interval_cases last <;> rfl

theorem maxRetries_le (method : Method) (body : List UInt8) : maxRetries method body ≤ 2 := by
  unfold maxRetries
  split
  · exact le_refl 2
  · split <;> decide

/-- A call that does not pass its checks does nothing but report an error. -/
theorem proxySendRequest_cases (runtime : Except Str Unit) (w : ForwardWorld Client)
    (request : ProxyRequest) :
    (∃ error, proxySendRequest runtime w request = ⟨failedResponse request.id error, [], []⟩) ∨
      ∃ client uri method, Passes runtime w request client uri method := by
  cases hruntime : runtime with
  | error error => exact Or.inl ⟨error, rfl⟩
  | ok _ =>
      unfold proxySendRequest sendRequest forwardRequest
      cases hclient : w.getWreqClient request.profile with
      | error error => exact Or.inl ⟨_, rfl⟩
      | ok client =>
          cases huri : w.parseUri request.url with
          | error error => exact Or.inl ⟨_, rfl⟩
          | ok uri =>
              cases hmethod : w.parseMethod request.method with
              | error error => exact Or.inl ⟨_, rfl⟩
              | ok method => exact Or.inr ⟨client, uri, method, rfl, hclient, huri, hmethod⟩

theorem wellReported_proxySendRequest (runtime : Except Str Unit) (w : ForwardWorld Client)
    (request : ProxyRequest) :
    WellReported request.id (proxySendRequest runtime w request).response := by
  rcases proxySendRequest_cases runtime w request with
    ⟨error, hfailed⟩ | ⟨client, uri, method, hpasses⟩
  · rw [hfailed]
    exact wellReported_failedResponse request.id error
  · obtain ⟨last, hlast⟩ := exists_last w (maxRetries method request.body)
    rw [proxySendRequest_of_passes hpasses hlast]
    exact wellReported_report request w uri last

/-- **A buffered call from end to end.** Every call is reported well.  One that passes its checks
makes one attempt more than the last one's number, which is the budget or that of the first
outcome that is not repeated; it reports what that attempt met, and the return after the loop is
not reached. -/
theorem last_attempt_reported (runtime : Except Str Unit) (w : ForwardWorld Client)
    (request : ProxyRequest) :
    let answered := proxySendRequest runtime w request
    WellReported request.id answered.response ∧
    ∀ client uri method, Passes runtime w request client uri method →
      let budget :=
        if isIdempotent method then 2
        else if request.body.length ≤ 1024 * 1024 then 1
        else 0
      ∃ k, IsLeast {i | i = budget ∨ ¬Retryable (w.attempt i)} k ∧
        answered.sent.length = k + 1 ∧
        (∀ sent ∈ answered.sent,
          sent = ⟨client, method, uri, buildForwardHeaders request.headers, request.body⟩) ∧
        k ≤ 2 ∧ answered.sleeps.sum = (if k = 0 then 0 else if k = 1 then 100 else 500) ∧
        answered.response = request.report w uri k ∧
        ¬FallsThrough w (request.forwardCall client uri method) (budget + 1) 0 := by
  intro answered
  refine ⟨wellReported_proxySendRequest runtime w request, ?_⟩
  intro client uri method hpasses budget
  obtain ⟨k, hk⟩ := exists_last w (maxRetries method request.body)
  have hanswered : answered = _ := proxySendRequest_of_passes hpasses hk
  have hbudget : k ≤ maxRetries method request.body := hk.2 (Or.inl rfl)
  have htwo : k ≤ 2 := le_trans hbudget (maxRetries_le method request.body)
  refine ⟨k, hk, ?_, ?_, htwo, ?_, ?_, ?_⟩
  · rw [hanswered, List.length_replicate]
  · intro sent hsent
    rw [hanswered] at hsent
    exact List.eq_of_mem_replicate hsent
  · rw [hanswered]
    exact sum_backoff htwo
  · rw [hanswered]
  · exact not_fallsThrough budget 0 (Nat.zero_add budget).ge

/-- The upstream answers 500 to every attempt. -/
def failingUpstream : ForwardWorld Nat :=
  sampleForwardWorld fun _ => .response ⟨.internalServerError, .empty, .ok []⟩

def sampleProxyRequest : ProxyRequest where
  id := "7"
  method := "GET"
  url := "http://up.example/"
  headers := []
  body := []
  profile := "pass-through"
  timeoutSecs := 0

/-- A GET is answered with the third of three 500s. -/
theorem last_attempt_reported_failing :
    let answered := proxySendRequest (.ok ()) failingUpstream sampleProxyRequest
    answered.sent.length = 3 ∧ answered.sleeps.sum = 500 ∧ answered.response.statusCode = 500 ∧
      WellReported "7" answered.response := by
  have hpasses : Passes (.ok ()) failingUpstream sampleProxyRequest 1
      ⟨some "http", some "up.example", some "up.example", none, "/", none⟩ .get :=
    ⟨rfl, rfl, by decide, by decide⟩
  obtain ⟨hreported, hcall⟩ := last_attempt_reported (.ok ()) failingUpstream sampleProxyRequest
  obtain ⟨k, hk, hlength, -, -, hsleeps, hresponse, -⟩ := hcall _ _ _ hpasses
  have htwo : k = 2 := by
    rcases hk.1 with hbudget | hends
    · exact hbudget
    · have hserver : StatusCode.isServerError .internalServerError = true := by decide
      exact absurd hserver hends
  rw [htwo] at hlength hsleeps hresponse
  refine ⟨hlength, hsleeps, ?_, hreported⟩
  rw [hresponse]
  rfl

end TlsPlus
