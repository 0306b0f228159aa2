/-
What the WebSocket path decides on.

The classification of a request fixes its method, version and protocol, and an
answer to a forwarded handshake is one of three things: a switch with its bridge
job, the upstream's own response relayed, or an error of the proxy.
-/
import TlsPlus.Proxy.Websocket

namespace TlsPlus

open Text

variable {Client : Type} {request : Request}

/-! ### Classification -/

theorem classify_none (h : classify request = .none) : request.protocol = none := by
  unfold classify at h
  split at h
  · split at h <;> cases h
  · assumption

/-- An HTTP/1.1 handshake is a GET whose headers ask for the upgrade. -/
theorem classify_http1 (h : classify request = .webSocket .http1) :
    request.method = .get ∧ request.version = .http11 ∧ request.protocol = none ∧
      isWebsocketUpgrade request.headers = true := by
  unfold classify at h
  split at h
  · split at h <;> cases h
  · rename_i hprotocol
    simp only at h
    split at h
    · cases h
    · split at h
      · rename_i hget
        exact ⟨hget.1, hget.2.1, hprotocol, Bool.and_eq_true_iff.mpr hget.2.2⟩
      · cases h

/-- An HTTP/2 handshake is an Extended CONNECT for `websocket`. -/
theorem classify_http2 (h : classify request = .webSocket .http2) :
    request.method = .connect ∧ request.version = .http2 ∧
      request.protocol = some ("websocket" : Str) := by
  unfold classify at h
  split at h
  · rename_i protocol hprotocol
    split at h
    · rename_i hconnect
      exact ⟨hconnect.1, hconnect.2.1, hprotocol.trans (congrArg some hconnect.2.2)⟩
    · cases h
  · simp only at h
    split at h
    · cases h
    · split at h <;> cases h

/-! ### Answers -/

/-- The response that tells the client its handshake succeeded. -/
def bridgedResponse (response : UpstreamResponse) (transport : WebSocketTransport) : Response where
  version := response.version
  status := response.status
  headers := responseHeaders response.headers transport
  body := .empty

/-- **An answer is a switch with its job, a relayed response, or an error.** -/
theorem websocketAnswer_cases (w : World Client) (request : Request)
    (transport : WebSocketTransport) (metadata : Metadata) :
    (∃ response stream, w.send = .response response ∧
      Outbound.isSuccess response transport = true ∧ w.upgrade = .upgraded stream ∧
      websocketAnswer w request transport metadata
        = (bridgedResponse response transport, [⟨request.onUpgrade, stream⟩])) ∨
    (∃ response, w.send = .response response ∧
      Outbound.isSuccess response transport = false ∧
      websocketAnswer w request transport metadata = (convertResponse response, [])) ∨
    ∃ status message, (status = .badGateway ∨ status = .gatewayTimeout ∨
        status = .internalServerError) ∧
      (∀ response, w.send = .response response →
        Outbound.isSuccess response transport = true) ∧
      websocketAnswer w request transport metadata = (errorResponse status message, []) := by
  unfold websocketAnswer
  cases hsend : w.send with
  | error e => exact Or.inr (Or.inr ⟨_, _, Or.inl rfl, by simp, rfl⟩)
  | timeout => exact Or.inr (Or.inr ⟨_, _, Or.inr (Or.inl rfl), by simp, rfl⟩)
  | response response =>
      cases hsuccess : Outbound.isSuccess response transport with
      | false => exact Or.inr (Or.inl ⟨response, rfl, hsuccess, by simp [hsuccess]⟩)
      | true =>
          have hall : ∀ r, SendOutcome.response response = .response r →
              Outbound.isSuccess r transport = true := by
            intro r hr
            cases hr
            exact hsuccess
          simp only [hsuccess, Bool.not_true, Bool.false_eq_true, if_false]
          by_cases hheaders : transport = .http1 ∧ !isWebsocketUpgrade response.headers
          · exact Or.inr (Or.inr ⟨_, _, Or.inl rfl, hall, if_pos hheaders⟩)
          · rw [if_neg hheaders]
            cases hupgrade : w.upgrade with
            | error e => exact Or.inr (Or.inr ⟨_, _, Or.inl rfl, hall, rfl⟩)
            | timeout => exact Or.inr (Or.inr ⟨_, _, Or.inr (Or.inl rfl), hall, rfl⟩)
            | upgraded stream =>
                cases hopen : w.bridgeOpen with
                | false =>
                    exact Or.inr (Or.inr ⟨_, _, Or.inr (Or.inr rfl), hall, by simp; rfl⟩)
                | true => exact Or.inl ⟨response, stream, rfl, hsuccess, rfl, by simp; rfl⟩

end TlsPlus
