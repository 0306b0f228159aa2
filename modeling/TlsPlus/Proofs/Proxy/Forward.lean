/-
How often a request is sent.

`judge_continue_iff` says when an attempt is followed by another: the budget is
not spent and the attempt is one the loop repeats.  So the last attempt is the least
number that is the budget or has an outcome that ends the loop, and `attempts_eq`
says all that the loop does up to there; the induction is on the attempts left.

For a method that is not idempotent the budget is one repetition of a small body
and none of a large one.  A response or a reset does not rule the repetition out,
so such a request can be processed twice.
-/
import Mathlib.Order.Nat
import TlsPlus.Proxy.Forward
import TlsPlus.Proofs.Proxy.Service

namespace TlsPlus

open Text

variable {Client : Type} {w : ForwardWorld Client} {call : ForwardCall Client}

/-- An attempt that the loop repeats while it has budget. -/
def Retryable : Attempt → Prop
  | .response response => response.status.isServerError = true
  | .error error => isTransientError error = true
  | .timeout => True

/-- An attempt is followed by another exactly within the budget and if it is repeatable. -/
theorem judge_continue_iff (w : ForwardWorld Client) (call : ForwardCall Client) (attempt : Nat) :
    (∃ lastError, judge w call attempt = .continue lastError) ↔
      attempt < call.maxRetries ∧ Retryable (w.attempt attempt) := by
  unfold judge Retryable
  cases w.attempt attempt with
  | response response =>
      by_cases h : response.status.isServerError && attempt < call.maxRetries
      · have hboth : response.status.isServerError = true ∧ attempt < call.maxRetries := by
          simpa using h
        simp only [if_pos h]
        exact iff_of_true ⟨_, rfl⟩ hboth.symm
      · have hnot : ¬(attempt < call.maxRetries ∧ response.status.isServerError = true) := by
          intro hboth
          exact h (by simpa using hboth.symm)
        simp only [if_neg h]
        exact iff_of_false (by simp) hnot
  | error error =>
      by_cases h : attempt < call.maxRetries && isTransientError error
      · simp only [if_pos h]
        exact iff_of_true ⟨_, rfl⟩ (by simpa using h)
      · simp only [if_neg h]
        exact iff_of_false (by simp) (by simpa using h)
  | timeout =>
      by_cases h : attempt < call.maxRetries
      · simp only [if_pos h]
        exact iff_of_true ⟨_, rfl⟩ ⟨h, trivial⟩
      · simp only [if_neg h]
        exact iff_of_false (by simp) (fun hboth => h hboth.1)

/-! ### The last attempt -/

/-- What the loop returns at an attempt that is its last. -/
def ForwardCall.result (call : ForwardCall Client) (w : ForwardWorld Client) (attempt : Nat) :
    Except Str ProxyResponse :=
  match w.attempt attempt with
  | .response response => bufferResponse w call.request.uri response
  | .error error =>
    .error ("Request to " ++ call.targetUrl ++ " failed (profile: " ++ call.profile ++ "): " ++
      error.message)
  | .timeout =>
    .error ("Request to " ++ call.targetUrl ++ " timed out after " ++
      debugSecs (effectiveTimeoutSecs call.timeoutSecs) ++ " (profile: " ++ call.profile ++ ")")

/-- An attempt that is not repeated is the one whose result is returned. -/
theorem judge_finish {attempt : Nat}
    (h : ¬(attempt < call.maxRetries ∧ Retryable (w.attempt attempt))) :
    judge w call attempt = .finish (call.result w attempt) := by
  cases hjudge : judge w call attempt with
  | «continue» lastError =>
      exact absurd ((judge_continue_iff w call attempt).mp ⟨lastError, hjudge⟩) h
  | finish result =>
      unfold judge at hjudge
      unfold ForwardCall.result
      cases hattempt : w.attempt attempt with
      | response response =>
          simp only [hattempt] at hjudge ⊢
          split at hjudge
          · exact absurd hjudge (by simp)
          · exact hjudge.symm
      | error error =>
          simp only [hattempt] at hjudge ⊢
          split at hjudge
          · exact absurd hjudge (by simp)
          · exact hjudge.symm
      | timeout =>
          simp only [hattempt] at hjudge ⊢
          split at hjudge
          · exact absurd hjudge (by simp)
          · exact hjudge.symm

/-- The numbers a last attempt can have: the budget's last, or one whose outcome ends the loop. -/
def Ends (w : ForwardWorld Client) (maxRetries attempt : Nat) : Prop :=
  attempt = maxRetries ∨ ¬Retryable (w.attempt attempt)

/-- Before the last attempt each is repeatable, and within the budget. -/
theorem retryable_of_lt {maxRetries last i : Nat}
    (hlast : IsLeast {i | Ends w maxRetries i} last) (hi : i < last) :
    i < maxRetries ∧ Retryable (w.attempt i) := by
  have hbudget : last ≤ maxRetries := hlast.2 (Or.inl rfl)
  have hnot : ¬Ends w maxRetries i := fun h => absurd (hlast.2 h) (Nat.not_le.mpr hi)
  exact ⟨by omega, not_not.mp fun h => hnot (Or.inr h)⟩

/-- **The loop from an attempt on**: it runs to the least attempt that ends it. -/
theorem attempts_eq {last : Nat} (hlast : IsLeast {i | Ends w call.maxRetries i} last)
    (left : Nat) : ∀ (attempt : Nat) (lastError : Str), attempt ≤ last →
      attempt + left = call.maxRetries + 1 →
        attempts w call left attempt lastError = {
          result := call.result w last
          sent := List.replicate (last + 1 - attempt) call.request
          sleeps := (List.range' attempt (last + 1 - attempt)).flatMap backoff } := by
  have hbudget : last ≤ call.maxRetries := hlast.2 (Or.inl rfl)
  induction left with
  | zero =>
      intro attempt lastError hle hleft
      omega
  | succ left ih =>
      intro attempt lastError hle hleft
      have hcount : last + 1 - attempt = last - attempt + 1 := by omega
      rcases Nat.lt_or_ge attempt last with hbefore | hreached
      · obtain ⟨lastError', hjudge⟩ :=
          (judge_continue_iff w call attempt).mpr (retryable_of_lt hlast hbefore)
        have hrest := ih (attempt + 1) lastError' hbefore (by omega)
        rw [show last + 1 - (attempt + 1) = last - attempt by omega] at hrest
        rw [hcount]
        simp only [attempts, hjudge, hrest, List.replicate_succ, List.range'_succ,
          List.flatMap_cons]
      · obtain rfl : last = attempt := Nat.le_antisymm hreached hle
        have hstop : ¬(last < call.maxRetries ∧ Retryable (w.attempt last)) := by
          rintro ⟨hlt, hretry⟩
          rcases hlast.1 with hspent | hends
          · omega
          · exact hends hretry
        rw [Nat.add_sub_cancel_left]
        simp only [attempts, judge_finish hstop, List.replicate_one, List.range'_one,
          List.flatMap_cons, List.flatMap_nil, List.append_nil]

/-- There is a last attempt. -/
theorem exists_last (w : ForwardWorld Client) (maxRetries : Nat) :
    ∃ last, IsLeast {i | Ends w maxRetries i} last := by
  classical
  have hsome : ∃ i, Ends w maxRetries i := ⟨maxRetries, Or.inl rfl⟩
  exact ⟨Nat.find hsome, Nat.isLeast_find hsome⟩

/-- The calls that get as far as the loop. -/
theorem forwardRequest_sent (w : ForwardWorld Client) (targetUrl method : Str)
    (headers : List Str) (body : List UInt8) (profile : Str) (timeoutSecs : Nat) :
    (forwardRequest w targetUrl method headers body profile timeoutSecs).sent = [] ∨
    ∃ call : ForwardCall Client, w.parseMethod method = .ok call.request.method ∧
      call.request.body = body ∧
      (forwardRequest w targetUrl method headers body profile timeoutSecs).sent =
        (attempts w call (call.maxRetries + 1) 0 []).sent := by
  unfold forwardRequest
  cases w.getWreqClient profile with
  | error e => exact Or.inl rfl
  | ok client =>
      cases w.parseUri targetUrl with
      | error e => exact Or.inl rfl
      | ok uri =>
          cases hmethod : w.parseMethod method with
          | error e => exact Or.inl rfl
          | ok m =>
              exact Or.inr ⟨⟨targetUrl, profile, timeoutSecs, client, m, uri,
                buildForwardHeaders headers, body⟩, rfl, rfl, rfl⟩

/-! ### Methods that are not idempotent -/

/-- The server may have acted on the attempt. -/
def MayBeProcessed : Attempt → Prop
  | .response _ => True
  | .error error => error.isConnectionReset = true
  | .timeout => True

/-- No attempt that may have been acted on is followed by another. -/
def DeliveredAtMostOnce (w : ForwardWorld Client) (sent : List (BufferedRequest Client)) : Prop :=
  ∀ i, i + 1 < sent.length → ¬MayBeProcessed (w.attempt i)

/-- Such a request has one repetition at most, and only of a small body. -/
theorem maxRetries_of_not_idempotent (h : isIdempotent call.request.method = false) :
    call.maxRetries = if call.request.body.length ≤ maxRetryBodySize then 1 else 0 := by
  unfold ForwardCall.maxRetries maxRetries
  rw [h]
  rfl

/-- **A request that is not idempotent is sent twice at most**: a second time exactly if its
body is small and the first attempt is one the loop repeats, and never again after an attempt
of another kind. -/
theorem not_idempotent_sent (w : ForwardWorld Client) (targetUrl method : Str)
    (headers : List Str) (body : List UInt8) (profile : Str) (timeoutSecs : Nat) {m : Method}
    (hmethod : w.parseMethod method = .ok m) (hm : isIdempotent m = false) :
    let sent := (forwardRequest w targetUrl method headers body profile timeoutSecs).sent
    (maxRetryBodySize < body.length → sent.length ≤ 1) ∧ sent.length ≤ 2 ∧
      (∀ i, i + 1 < sent.length → Retryable (w.attempt i)) ∧
      (sent.length = 2 ↔
        sent ≠ [] ∧ body.length ≤ maxRetryBodySize ∧ Retryable (w.attempt 0)) := by
  intro sent
  rcases forwardRequest_sent w targetUrl method headers body profile timeoutSecs with
    hnone | ⟨call, hcall, hbody, hloop⟩
  · have hempty : sent = [] := hnone
    rw [hempty]
    simp
  · obtain ⟨last, hlast⟩ := exists_last w call.maxRetries
    have hlength : sent.length = last + 1 := by
      show (forwardRequest w targetUrl method headers body profile timeoutSecs).sent.length = _
      rw [hloop, attempts_eq hlast _ 0 [] (Nat.zero_le last) (Nat.zero_add _)]
      exact List.length_replicate
    have hidempotent : isIdempotent call.request.method = false := by
      rw [hmethod, Except.ok.injEq] at hcall
      exact hcall ▸ hm
    have hbudget : call.maxRetries = if body.length ≤ maxRetryBodySize then 1 else 0 := by
      rw [maxRetries_of_not_idempotent hidempotent, hbody]
    have hspent : last ≤ call.maxRetries := hlast.2 (Or.inl rfl)
    have hfollowed : ∀ i, i + 1 < sent.length → Retryable (w.attempt i) := fun i hi =>
      (retryable_of_lt hlast (by omega)).2
    by_cases hsmall : body.length ≤ maxRetryBodySize
    · rw [if_pos hsmall] at hbudget
      refine ⟨fun hlarge => by omega, by omega, hfollowed, fun htwo => ?_, ?_⟩
      · exact ⟨List.ne_nil_of_length_pos (by omega), hsmall, hfollowed 0 (by omega)⟩
      · rintro ⟨-, -, hretry⟩
        -- the first attempt is repeated, so the last one is the budget's
        have hne : last ≠ 0 := by
          intro hzero
          rw [hzero] at hlast
          rcases hlast.1 with hbudgetZero | hends
          · omega
          · exact hends hretry
        omega
    · rw [if_neg hsmall] at hbudget
      exact ⟨fun _ => by omega, by omega, hfollowed,
        iff_of_false (by omega) fun h => hsmall h.2.1⟩

/-- A world in which every call gets as far as the loop. -/
def sampleForwardWorld (attempt : Nat → Attempt) : ForwardWorld Nat where
  getWreqClient _ := .ok 1
  parseUri := sampleParseUri
  parseMethod method := .ok (if method = "POST" then .post else .get)
  displayStatus status := decimal status.code
  decodeDiagnostic _ := none
  attempt := attempt

/-- The upstream answers 503 to the first attempt and 200 to the next. -/
def recoveringUpstream : ForwardWorld Nat :=
  sampleForwardWorld fun attempt =>
    .response ⟨if attempt = 0 then ⟨503, by decide⟩ else .ok, .empty, .ok []⟩

/-- A POST without a body is sent again after the 503. -/
theorem not_idempotent_sent_twice :
    (forwardRequest recoveringUpstream "http://up.example/" "POST" [] [] "pass-through" 30
      ).sent.length = 2 :=
  (not_idempotent_sent recoveringUpstream "http://up.example/" "POST" [] [] "pass-through" 30
    (m := .post) (by decide) (by decide)).2.2.2.mpr ⟨by decide, by decide, by
      show StatusCode.isServerError _ = true
      decide⟩

/-- So it can have been processed by the upstream twice. -/
theorem post_delivered_twice :
    isIdempotent .post = false ∧ recoveringUpstream.parseMethod "POST" = .ok .post ∧
      ¬DeliveredAtMostOnce recoveringUpstream
        (forwardRequest recoveringUpstream "http://up.example/" "POST" [] [] "pass-through" 30
          ).sent := by
  refine ⟨rfl, by decide, fun honce => ?_⟩
  exact honce 0 (by decide) trivial

end TlsPlus
