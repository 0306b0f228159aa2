/-
What a proxy has sent, no proxy sends on.

The URL of a redirected request may be that of the proxy itself, or of another one,
and the guard against this in the extension compares texts only.  What keeps a request
from going round is the metadata: a proxy sends nothing it has not been given a target
for, and sends no target with it (`forwarded_once`).

The network here is any number of proxies, in whatever world each request meets, and
any delivery of what they send, late, repeated or never.
-/
import TlsPlus.Lib.Machine
import TlsPlus.Proofs.Proxy.Headers
import TlsPlus.Proofs.Proxy.Metadata

namespace TlsPlus

variable {Client : Type} {w : World Client} {request : Request}

/-! ### Requests without a target -/

/-- **A request without a target is refused**, whatever else it is. -/
theorem refused_of_no_target (h : request.headers.getAll .xTlsplusTarget = []) :
    ∃ message, proxyService w request = .refused (errorResponse .badRequest message) := by
  by_cases hguard : PassesVersionGuard request
  · rw [proxyService_of_valid hguard.valid, dispatch_of_guard hguard]
    cases hclass : classify request with
    | invalid => exact ⟨_, rfl⟩
    | none =>
        have hmetadata : plainMetadata request.headers
            = .error (errorResponse .badRequest "Missing X-Tlsplus-Target header") := by
          simp only [plainMetadata, plainTarget, internalHeader, h]
          rfl
        simp only [forwardPlain, hmetadata]
        exact ⟨_, rfl⟩
    | webSocket transport =>
        rcases websocketMetadata_cases request.headers with ⟨-, refusal, hrefused⟩ |
          ⟨target, htarget, -, -⟩
        · obtain ⟨message, rfl⟩ := websocketMetadata_error hrefused
          simp only [websocketProxy, hrefused]
          exact ⟨message, rfl⟩
        · rw [firstText_of_absent h] at htarget
          exact absurd htarget (by simp)
  · exact proxyService_of_not_guard hguard

/-- No metadata is sent. -/
theorem no_target_sent {out : OutboundRequest Client} (h : out ∈ (proxyService w request).sent) :
    out.headers.getAll .xTlsplusTarget = [] := by
  have honly : EndToEndOnly request out.headers := by
    rcases mem_sent h with ⟨metadata, uri, client, hadmits, rfl⟩ |
      ⟨transport, metadata, uri, client, hadmits, rfl⟩
    · exact endToEndOnly_plain hadmits.plain
    · exact endToEndOnly_websocket hadmits.handshake
  have hmetadata : IsMetadata .xTlsplusTarget := by unfold IsMetadata; decide
  by_contra hsent
  rcases honly.nothing_else .xTlsplusTarget hsent with ⟨hend, -⟩ | ⟨-, hconnection | hupgrade⟩
  · exact hend.not_metadata hmetadata
  · exact absurd hconnection (by decide)
  · exact absurd hupgrade (by decide)

theorem length_sent_le (w : World Client) (request : Request) :
    (proxyService w request).sent.length ≤ 1 := by
  rcases proxyService_cases w request with ⟨status, message, -, hrefused⟩ |
    ⟨metadata, uri, client, hadmits⟩ | ⟨transport, metadata, uri, client, hadmits⟩
  · rw [hrefused]
    exact Nat.zero_le 1
  · rw [proxyService_of_admitsPlain hadmits]
    exact le_refl 1
  · rw [proxyService_of_admitsWebsocket hadmits]
    exact le_refl 1

/-! ### A network of proxies -/

/-- The request may be this one as it arrives: the client that sends it, and whatever it passes,
may add headers and leave some out, but adds no target. -/
def ArrivesFrom (out : OutboundRequest Client) (request : Request) : Prop :=
  ∀ value ∈ request.headers.getAll .xTlsplusTarget, value ∈ out.headers.getAll .xTlsplusTarget

instance (out : OutboundRequest Client) (request : Request) :
    Decidable (ArrivesFrom out request) :=
  inferInstanceAs (Decidable (∀ value ∈ _, _))

/-- Requests on their way from a proxy to a proxy, and how many were made by others and how many
by proxies. -/
structure Network where
  inFlight : List Request
  made : Nat
  forwarded : Nat

def Network.init : Network := ⟨[], 0, 0⟩

inductive NetworkEvent (Client : Type) where
  /-- a request comes to a proxy from outside; `arriving` is what comes to proxies of what is sent
  for it -/
  | request (w : World Client) (request : Request) (arriving : List Request)
  /-- a request that a proxy has sent comes to a proxy -/
  | deliver (i : Nat) (w : World Client) (arriving : List Request)

/-- A proxy serves a request. -/
def Network.serve (n : Network) (w : World Client) (request : Request) (arriving : List Request) :
    Option Network :=
  if ∀ r ∈ arriving, ∃ out ∈ (proxyService w request).sent, ArrivesFrom out r then
    some { n with
      inFlight := n.inFlight ++ arriving
      forwarded := n.forwarded + (proxyService w request).sent.length }
  else none

def networkMachine (Client : Type) : Machine Network (NetworkEvent Client) where
  step n event :=
    match event with
    | .request w request arriving => { n with made := n.made + 1 }.serve w request arriving
    | .deliver i w arriving => n.inFlight[i]?.bind fun request => n.serve w request arriving

/-- Nothing on its way has a target, and no more was forwarded than was made. -/
structure NetworkSo (n : Network) : Prop where
  targetless : ∀ r ∈ n.inFlight, r.headers.getAll .xTlsplusTarget = []
  bounded : n.forwarded ≤ n.made

theorem targetless_serve {n n' : Network} {arriving : List Request}
    (h : ∀ r ∈ n.inFlight, r.headers.getAll .xTlsplusTarget = [])
    (hserve : n.serve w request arriving = some n') :
    (∀ r ∈ n'.inFlight, r.headers.getAll .xTlsplusTarget = []) ∧ n'.made = n.made ∧
      n'.forwarded = n.forwarded + (proxyService w request).sent.length := by
  unfold Network.serve at hserve
  by_cases harriving : ∀ r ∈ arriving, ∃ out ∈ (proxyService w request).sent, ArrivesFrom out r
  · rw [if_pos harriving] at hserve
    rw [← Option.some.inj hserve]
    refine ⟨fun r hr => ?_, rfl, rfl⟩
    rcases List.mem_append.mp hr with hold | hnew
    · exact h r hold
    · obtain ⟨out, hout, harrives⟩ := harriving r hnew
      refine List.eq_nil_iff_forall_not_mem.mpr fun value hvalue => ?_
      have hmem := harrives value hvalue
      rw [no_target_sent hout] at hmem
      exact absurd hmem (by simp)
  · rw [if_neg harriving] at hserve
    exact absurd hserve (by simp)

theorem networkSo_step {n n' : Network} {event : NetworkEvent Client} (h : NetworkSo n)
    (hstep : (networkMachine Client).step n event = some n') : NetworkSo n' := by
  cases event with
  | request w request arriving =>
      obtain ⟨htargetless, hmade, hforwarded⟩ :=
        targetless_serve (n := { n with made := n.made + 1 }) h.targetless hstep
      refine ⟨htargetless, ?_⟩
      have hone := length_sent_le w request
      have hbounded := h.bounded
      rw [hmade, hforwarded]
      show n.forwarded + (proxyService w request).sent.length ≤ n.made + 1
      omega
  | deliver i w arriving =>
      obtain ⟨request, hrequest, hserve⟩ := Option.bind_eq_some_iff.mp hstep
      obtain ⟨htargetless, hmade, hforwarded⟩ := targetless_serve h.targetless hserve
      refine ⟨htargetless, ?_⟩
      -- nothing is sent for a request that came from a proxy
      obtain ⟨message, hrefused⟩ :=
        refused_of_no_target (w := w) (h.targetless request (List.mem_of_getElem? hrequest))
      have hnone : (proxyService w request).sent.length = 0 := by
        rw [hrefused]
        rfl
      rw [hmade, hforwarded, hnone]
      exact h.bounded

/-- **What a proxy has sent, no proxy sends on.**  However many proxies there are, and in whatever
order and how often what they send comes to a proxy again, to the same one or another, every such
request is refused as a bad one with nothing sent and nothing queued; and all proxies together have
sent no more requests than were made by others. -/
theorem forwarded_once {events : List (NetworkEvent Client)} {n : Network}
    (hrun : (networkMachine Client).run .init events = some n) :
    (∀ request ∈ n.inFlight, ∀ w : World Client,
      ∃ message, proxyService w request = .refused (errorResponse .badRequest message)) ∧
    n.forwarded ≤ n.made := by
  have hinit : NetworkSo .init := ⟨fun r hr => absurd hr (by simp [Network.init]), le_refl 0⟩
  have hend := Machine.run_invariant (P := NetworkSo)
    (fun _ _ _ h hstep => networkSo_step h hstep) hinit hrun
  exact ⟨fun request hrequest w => refused_of_no_target (hend.targetless request hrequest),
    hend.bounded⟩

/-- The handshake as it comes back to the proxy. -/
def returnedHandshake : Request :=
  { sampleHandshake with headers := requestHeaders sampleHandshake.headers .http1 }

/-- A handshake that the proxy sends to itself is refused there. -/
theorem forwarded_once_returned :
    ∃ n, (networkMachine Nat).run .init
        [.request (sampleWorld .timeout) sampleHandshake [returnedHandshake]] = some n ∧
      returnedHandshake ∈ n.inFlight ∧ n.forwarded = 1 ∧
      ∃ message, proxyService (sampleWorld .timeout) returnedHandshake
        = .refused (errorResponse .badRequest message) := by
  have hends : ((networkMachine Nat).run .init
      [.request (sampleWorld .timeout) sampleHandshake [returnedHandshake]]).map (fun n =>
        decide (returnedHandshake ∈ n.inFlight ∧ n.forwarded = 1)) = some true := by decide
  obtain ⟨n, hrun, hn⟩ := Option.map_eq_some_iff.mp hends
  obtain ⟨hmem, hcount⟩ := of_decide_eq_true hn
  exact ⟨n, hrun, hmem, hcount,
    (forwarded_once hrun).1 returnedHandshake hmem (sampleWorld .timeout)⟩

end TlsPlus
