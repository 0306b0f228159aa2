/-
Tunnels are answered for, and answers are kept.

A handler tells its client that the tunnel stands when its job has been sent, and
`run` spawns the bridge when it has received the job.  The jobs that handlers have
answered for are therefore the jobs that were sent, each once, and the bridges are the
first of them.  The counting is over handlers that interleave, so it is up to order:
`answered_perm_sent` is kept by every step.
-/
import TlsPlus.Proxy.Server.Handlers
import TlsPlus.Proofs.Proxy.Server.System
import TlsPlus.Proofs.Proxy.Service
import TlsPlus.Proofs.Proxy.Websocket

namespace TlsPlus

variable {Client : Type}

/-! ### One handler -/

/-- The answer says that a tunnel to this upstream stands. -/
structure TellsOfTunnel (h : Handler Client) (answer : Handled Client) (job : BridgeJob) :
    Prop where
  inbound : job.inbound = h.request.onUpgrade
  outbound : h.world.upgrade = .upgraded job.outbound
  accepted : ∃ response transport, classify h.request = .webSocket transport ∧
    h.world.send = .response response ∧ Outbound.isSuccess response transport = true ∧
    answer.response = bridgedResponse response transport

/-- **An answer comes with one job at most**, and with one only if it opens its tunnel. -/
theorem outcome_cases (h : Handler Client) (bridgeOpen : Bool) :
    (h.outcome bridgeOpen).sent.length ≤ 1 ∧
      ((h.outcome bridgeOpen).jobs = [] ∨ bridgeOpen = true ∧
        ∃ job, (h.outcome bridgeOpen).jobs = [job] ∧
          TellsOfTunnel h (h.outcome bridgeOpen) job) := by
  unfold Handler.outcome
  generalize hw : { h.world with bridgeOpen := bridgeOpen } = w
  rcases proxyService_cases w h.request with ⟨status, message, -, hrefused⟩ |
    ⟨metadata, uri, client, hadmits⟩ | ⟨transport, metadata, uri, client, hadmits⟩
  · rw [hrefused]
    exact ⟨Nat.zero_le _, Or.inl rfl⟩
  · rw [proxyService_of_admitsPlain hadmits]
    exact ⟨Nat.le_refl _, Or.inl rfl⟩
  · rw [proxyService_of_admitsWebsocket hadmits]
    refine ⟨Nat.le_refl _, ?_⟩
    rcases websocketAnswer_cases w h.request transport metadata with
      ⟨response, stream, hsend, hsuccess, hupgrade, hanswer⟩ | ⟨response, -, -, hanswer⟩ |
      ⟨status, message, -, -, hanswer⟩
    · have hopen : bridgeOpen = true := by
        by_contra hclosed
        rw [Bool.not_eq_true] at hclosed
        have hbridge : w.bridgeOpen = false := by rw [← hw, hclosed]
        have hnone : (websocketAnswer w h.request transport metadata).2 = [] := by
          unfold websocketAnswer
          rw [hsend, hupgrade, hbridge]
          simp only
          split
          · rfl
          · split <;> rfl
        rw [hanswer] at hnone
        exact absurd hnone (by simp)
      rw [hanswer]
      subst hw
      exact Or.inr ⟨hopen, _, rfl, rfl, hupgrade, response, transport, hadmits.handshake, hsend,
        hsuccess, rfl⟩
    · rw [hanswer]
      exact Or.inl rfl
    · rw [hanswer]
      exact Or.inl rfl

/-- The jobs a handler has answered for. -/
def Handler.queued (h : Handler Client) : List BridgeJob := (h.answer.map Handled.jobs).getD []

theorem queued_of_sending {h : Handler Client} (hpc : h.pc = .sending) : h.queued = [] := by
  unfold Handler.queued Handler.answer
  rw [hpc]
  rfl

theorem queued_dropped (h : Handler Client) : { h with pc := .dropped }.queued = [] := rfl

/-- A handler that was told the channel is closed has answered for nothing. -/
theorem queued_answered_false (h : Handler Client) :
    { h with pc := .answered false }.queued = [] := by
  show (h.outcome false).jobs = []
  rcases (outcome_cases h false).2 with hnone | ⟨hopen, -⟩
  · exact hnone
  · exact absurd hopen (by simp)

theorem queued_arrive (world : World Client) (request : Request) :
    (Handler.arrive world request).queued = [] := by
  unfold Handler.arrive
  simp only
  split
  · rename_i hnone
    exact hnone
  · rfl

/-! ### The connection -/

variable {c c' : ConnectionState BridgeJob} {event : ConnectionEvent BridgeJob}

theorem hasReturned_of_step (h : connectionMachine.step c event = some c')
    (hreturned : c.hasReturned = true) : c'.hasReturned = true := by
  unfold ConnectionState.hasReturned at hreturned
  split at hreturned
  · rename_i afterShutdown hpc
    cases event with
    | run poll => cases poll <;> simp [connectionMachine, ConnectionState.runStep, hpc] at h
    | dropSenders => rw [← Option.some.inj h]; simp [ConnectionState.hasReturned, hpc]
    | shutdown => rw [← Option.some.inj h]; simp [ConnectionState.hasReturned, hpc]
    | queue job =>
        simp [connectionMachine, ConnectionState.hasReturned, hpc] at h
    | bridgeEnds i outcome =>
        simp only [connectionMachine] at h
        split at h
        · rw [← Option.some.inj h]
          simp [ConnectionState.hasReturned, hpc]
        · exact absurd h (by simp)
  · exact absurd hreturned (by simp)

/-- Nothing is sent but by a handler. -/
theorem sent_of_step (hevent : ∀ job, event ≠ .queue job)
    (h : connectionMachine.step c event = some c') :
    c'.bridgeChannel.sent = c.bridgeChannel.sent := by
  cases event with
  | queue job => exact absurd rfl (hevent job)
  | dropSenders => rw [← Option.some.inj h]
  | shutdown => rw [← Option.some.inj h]
  | bridgeEnds i outcome =>
      simp only [connectionMachine] at h
      split at h
      · rw [← Option.some.inj h]
      · exact absurd h (by simp)
  | run poll =>
      cases runMove_of_runStep h with
      | spawns job rest pc hrecv hpc => exact (Channel.received_of_recv hrecv).1
      | _ => rfl

theorem sent_of_queue {job : BridgeJob} (h : connectionMachine.step c (.queue job) = some c') :
    c'.bridgeChannel.sent = c.bridgeChannel.sent ++ [job] := by
  simp only [connectionMachine] at h
  split at h
  · split at h
    · rename_i channel hsend
      rw [← Option.some.inj h]
      exact (Channel.sent_of_send hsend).1
    · exact absurd h (by simp)
  · exact absurd h (by simp)

/-! ### Counting jobs -/

/-- An element that counts for nothing is replaced. -/
private theorem perm_flatMap_set {α β : Type} (f : α → List β) {before : α} (after : α)
    (hnothing : f before = []) (l : List α) :
    ∀ i, l[i]? = some before → ((l.set i after).flatMap f).Perm (l.flatMap f ++ f after) := by
  induction l with
  | nil =>
      intro i h
      exact absurd h (by simp)
  | cons a rest ih =>
      intro i h
      cases i with
      | zero =>
          rw [List.getElem?_cons_zero, Option.some.injEq] at h
          rw [List.set_cons_zero, List.flatMap_cons, List.flatMap_cons, h, hnothing]
          exact List.perm_append_comm
      | succ i =>
          have hrest := ih i (by simpa using h)
          rw [List.set_cons_succ, List.flatMap_cons, List.flatMap_cons, List.append_assoc]
          exact List.Perm.append_left _ hrest

structure ServedInv (s : ServedConnection Client) : Prop where
  base : ConnectionInv s.connection
  queued : (s.handlers.flatMap Handler.queued).Perm s.connection.bridgeChannel.sent
  refused : ∀ h ∈ s.handlers, h.pc = .answered false → s.closed = true

theorem servedInv_init : ServedInv (ServedConnection.init : ServedConnection Client) where
  base := connectionInv_init
  queued := List.Perm.refl _
  refused _ hh := absurd hh List.not_mem_nil

variable {s s' : ServedConnection Client}

theorem moves_eq_some {i : Nat} {pc : HandlerPc} (h : s.moves i pc = some s') :
    ∃ handler, s.handlers[i]? = some handler ∧ handler.pc = .sending ∧
      s' = { s with handlers := s.handlers.set i { handler with pc := pc } } := by
  unfold ServedConnection.moves at h
  cases hi : s.handlers[i]? with
  | none => simp [hi] at h
  | some handler =>
      simp only [hi] at h
      obtain ⟨hpc, hs'⟩ := Option.ite_none_right_eq_some.mp h
      exact ⟨handler, rfl, hpc, (Option.some.inj hs').symm⟩

/-- A handler moves on without a job of its own. -/
theorem ServedInv.moves (inv : ServedInv s) {i : Nat} {pc : HandlerPc}
    (hnothing : ∀ handler : Handler Client, { handler with pc := pc }.queued = [])
    (hclosed : pc = .answered false → s.closed = true) (h : s.moves i pc = some s') :
    ServedInv s' := by
  obtain ⟨handler, hi, hpc, rfl⟩ := moves_eq_some h
  refine ⟨inv.base, ?_, fun g hg hrefused => ?_⟩
  · have hperm := perm_flatMap_set Handler.queued { handler with pc := pc }
      (queued_of_sending hpc) s.handlers i hi
    rw [hnothing, List.append_nil] at hperm
    exact hperm.trans inv.queued
  · rcases List.mem_or_eq_of_mem_set hg with hold | rfl
    · exact inv.refused g hold hrefused
    · exact hclosed hrefused

/-- A handler's job is sent as it answers for it. -/
theorem ServedInv.sends (inv : ServedInv s) {i : Nat} {job : BridgeJob}
    (hjob : s.job i = some job) {connection : ConnectionState BridgeJob}
    (hqueue : connectionMachine.step s.connection (.queue job) = some connection)
    (h : { s with connection := connection }.moves i (.answered true) = some s') :
    ServedInv s' := by
  obtain ⟨handler, hi, hpc, rfl⟩ := moves_eq_some h
  have hget : s.handlers[i]? = some handler := hi
  have hjobs : { handler with pc := HandlerPc.answered true }.queued = [job] := by
    show (handler.outcome true).jobs = [job]
    unfold ServedConnection.job at hjob
    rw [hget, Option.bind_some] at hjob
    rcases (outcome_cases handler true).2 with hnone | ⟨-, found, hone, -⟩
    · rw [hnone] at hjob
      exact absurd hjob (by simp)
    · rw [hone, List.head?_cons, Option.some.injEq] at hjob
      rw [hone, hjob]
  refine ⟨connectionInv_step inv.base hqueue, ?_, fun g hg hrefused => ?_⟩
  · have hperm := perm_flatMap_set Handler.queued { handler with pc := .answered true }
      (queued_of_sending hpc) s.handlers i hget
    rw [hjobs] at hperm
    show List.Perm _ connection.bridgeChannel.sent
    rw [sent_of_queue hqueue]
    exact hperm.trans (inv.queued.append_right _)
  · rcases List.mem_or_eq_of_mem_set hg with hold | rfl
    · have hclosed := inv.refused g hold hrefused
      unfold ServedConnection.closed at hclosed ⊢
      rcases Bool.or_eq_true_iff.mp hclosed with hdropped | hreturned
      · exact Bool.or_eq_true_iff.mpr (Or.inl hdropped)
      · exact Bool.or_eq_true_iff.mpr (Or.inr (hasReturned_of_step hqueue hreturned))
    · exact absurd hrefused (by simp)

/-- Something else happens in the connection. -/
theorem ServedInv.connection (inv : ServedInv s) (hevent : ∀ job, event ≠ .queue job)
    {c : ConnectionState BridgeJob} (h : connectionMachine.step s.connection event = some c) :
    ServedInv { s with connection := c } := by
  refine ⟨connectionInv_step inv.base h, ?_, fun g hg hrefused => ?_⟩
  · show List.Perm _ c.bridgeChannel.sent
    rw [sent_of_step hevent h]
    exact inv.queued
  · have hclosed := inv.refused g hg hrefused
    unfold ServedConnection.closed at hclosed ⊢
    rcases Bool.or_eq_true_iff.mp hclosed with hdropped | hreturned
    · exact Bool.or_eq_true_iff.mpr (Or.inl hdropped)
    · exact Bool.or_eq_true_iff.mpr (Or.inr (hasReturned_of_step h hreturned))

theorem ServedInv.dropsTask (inv : ServedInv s) (hopen : s.closed = false) :
    ServedInv { s with connection := s.connection.drop, dropped := true } where
  base := by
    refine connectionInv_drop inv.base ?_
    by_contra hreturned
    rw [Bool.not_eq_false] at hreturned
    exact absurd hopen (by simp [ServedConnection.closed, hreturned])
  queued := inv.queued
  refused _ _ _ := rfl

theorem ServedInv.arrives (inv : ServedInv s) (world : World Client) (request : Request) :
    ServedInv { s with handlers := s.handlers ++ [.arrive world request] } := by
  refine ⟨inv.base, ?_, fun g hg hrefused => ?_⟩
  · rw [List.flatMap_append, List.flatMap_singleton, queued_arrive, List.append_nil]
    exact inv.queued
  · rcases List.mem_append.mp hg with hold | hnew
    · exact inv.refused g hold hrefused
    · rw [List.mem_singleton.mp hnew] at hrefused
      unfold Handler.arrive at hrefused
      simp only at hrefused
      split at hrefused <;> exact absurd hrefused (by simp)

theorem ServedInv.step (inv : ServedInv s) {event : HandlerEvent Client}
    (h : servedMachine.step s event = some s') : ServedInv s' := by
  have hconnection : ∀ {e : ConnectionEvent BridgeJob}, (∀ job, e ≠ .queue job) →
      ((connectionMachine.step s.connection e).map fun c =>
        { s with connection := c }) = some s' → ServedInv s' := by
    intro e he hmap
    obtain ⟨c, hstep, rfl⟩ := Option.map_eq_some_iff.mp hmap
    exact inv.connection he hstep
  cases event with
  | arrives world request =>
      obtain ⟨-, hs'⟩ := Option.ite_none_right_eq_some.mp h
      rw [← Option.some.inj hs']
      exact inv.arrives world request
  | sends i =>
      simp only [servedMachine, ServedConnection.step] at h
      split at h
      · rename_i job hjob
        obtain ⟨-, hsend⟩ := Option.ite_none_left_eq_some.mp h
        split at hsend
        · rename_i connection hqueue
          exact inv.sends hjob hqueue hsend
        · exact absurd hsend (by simp)
      · exact absurd h (by simp)
  | sendFails i =>
      obtain ⟨hclosed, hmoves⟩ := Option.ite_none_right_eq_some.mp h
      exact inv.moves queued_answered_false (fun _ => hclosed) hmoves
  | drops i => exact inv.moves queued_dropped (fun hpc => absurd hpc (by simp)) h
  | dropsTask =>
      obtain ⟨hopen, hs'⟩ := Option.ite_none_left_eq_some.mp h
      rw [← Option.some.inj hs']
      exact inv.dropsTask (Bool.eq_false_iff.mpr hopen)
  | connection e =>
      cases e with
      | queue job => exact absurd h (by simp [servedMachine, ServedConnection.step])
      | dropSenders =>
          obtain ⟨-, hmap⟩ := Option.ite_none_right_eq_some.mp h
          exact hconnection (by simp) hmap
      | run poll =>
          obtain ⟨-, hmap⟩ := Option.ite_none_left_eq_some.mp h
          exact hconnection (by simp) hmap
      | shutdown =>
          have hmap : ((connectionMachine.step s.connection .shutdown).map fun c =>
            { s with connection := c }) = some s' := h
          exact hconnection (by simp) hmap
      | bridgeEnds i outcome =>
          have hmap : ((connectionMachine.step s.connection (.bridgeEnds i outcome)).map fun c =>
            { s with connection := c }) = some s' := h
          exact hconnection (by simp) hmap

/-- **A tunnel is answered for, and an answer is kept.**  However the handlers of a connection and
its task interleave, the bridges spawned are those of handlers that answered for them, each once,
and what is left over is still in the channel, or was lost there with the connection.  A handler
sends one upstream request at most; its answer tells of a tunnel only if the upstream accepted this
request's handshake and the job was sent; and it says that the bridge is unavailable only if the
receiving end was gone. -/
theorem tunnels_answered {events : List (HandlerEvent Client)}
    (hrun : servedMachine.run .init events = some s) :
    (s.connection.bridges.spawned ++ s.connection.bridgeChannel.buffer).Perm
      (s.handlers.flatMap Handler.queued) ∧
    ∀ h ∈ s.handlers, ∀ answer, h.answer = some answer → answer.sent.length ≤ 1 ∧
      (answer.jobs = [] ∨ ∃ job, answer.jobs = [job] ∧
        job ∈ s.connection.bridgeChannel.sent ∧ TellsOfTunnel h answer job) ∧
      (h.pc = .answered false → s.closed = true) := by
  have inv : ServedInv s :=
    Machine.run_invariant (fun _ _ _ inv h => inv.step h) servedInv_init hrun
  constructor
  · rw [inv.base.spawned, ← s.connection.bridgeChannel.conserved]
    exact inv.queued.symm
  · intro h hmem answer hanswer
    have hqueued : answer.jobs ⊆ s.connection.bridgeChannel.sent := by
      intro job hjob
      refine inv.queued.mem_iff.mp (List.mem_flatMap.mpr ⟨h, hmem, ?_⟩)
      unfold Handler.queued
      rw [hanswer]
      exact hjob
    unfold Handler.answer at hanswer
    split at hanswer
    · rename_i bridgeOpen hpc
      rw [← Option.some.inj hanswer] at hqueued ⊢
      obtain ⟨hsent, hjobs⟩ := outcome_cases h bridgeOpen
      refine ⟨hsent, ?_, inv.refused h hmem⟩
      rcases hjobs with hnone | ⟨-, job, hone, hopens⟩
      · exact Or.inl hnone
      · exact Or.inr ⟨job, hone, hqueued (by rw [hone]; simp), hopens⟩
    · exact absurd hanswer (by simp)

/-! ### A history -/

/-- The upstream of the sample handshake switches to its stream 9. -/
def acceptingWorld : World Nat :=
  sampleWorld (.response ⟨.http11, .switchingProtocols,
    (withUpgradePair .empty .http1), []⟩)

/-- Two handshakes on one connection.  The first one's job takes the one place in the channel; `run`
has it spawned, and is aborted before the second's is sent. -/
def sampleHandlers : List (HandlerEvent Nat) :=
  [.arrives acceptingWorld sampleHandshake, .arrives acceptingWorld sampleHandshake, .sends 0,
   .connection (.run .ready), .connection (.run .pending), .connection (.run .ready), .dropsTask,
   .sendFails 1]

theorem tunnels_answered_sample :
    ∃ s, servedMachine.run .init sampleHandlers = some s ∧
      s.handlers.map Handler.pc = [.answered true, .answered false] ∧
      s.connection.bridges.spawned = [⟨5, 9⟩] ∧
      (s.connection.bridges.spawned ++ s.connection.bridgeChannel.buffer).Perm
        (s.handlers.flatMap Handler.queued) := by
  have hends : (servedMachine.run .init sampleHandlers).map (fun s =>
      (s.handlers.map Handler.pc, s.connection.bridges.spawned))
      = some ([.answered true, .answered false], [⟨5, 9⟩]) := by decide
  obtain ⟨s, hrun, hs⟩ := Option.map_eq_some_iff.mp hends
  rw [Prod.mk.injEq] at hs
  exact ⟨s, hrun, hs.1, hs.2, (tunnels_answered hrun).1⟩

end TlsPlus
