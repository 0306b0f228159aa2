/-
No tunnel is lost, duplicated or leaked.

`RunMove` says once what a step of `run` can do; the invariant is then checked
against its eight cases.  The tasks spawned are the jobs received, so a job is
spawned once and in its turn; what had been queued when the connection completed
has been received whenever `run` is not in the middle of draining the channel; and
`run` only returns when its set of bridges has nothing left to join.

The second of these is why the drain follows the completion at once: a job that
arrives in the poll that completes the connection is still in the channel then, and
without the drain the test at the loop's top could return past it.
-/
import TlsPlus.Proxy.Server.Connection

namespace TlsPlus

variable {Job : Type} {s s' : ConnectionState Job}

/-! ### What a step of `run` can do -/

/-- A place in the loop where `run` neither drains the channel nor has returned. -/
def RunPc.Looping : RunPc → Prop
  | .drain => False
  | .returned _ => False
  | _ => True

theorem RunPc.Looping.ne_drain {pc : RunPc} (h : pc.Looping) : pc ≠ .drain := by
  rintro rfl
  exact h

theorem RunPc.Looping.ne_returned {pc : RunPc} (h : pc.Looping) (afterShutdown : Bool) :
    pc ≠ .returned afterShutdown := by
  rintro rfl
  exact h

inductive RunMove (s : ConnectionState Job) : ConnectionState Job → Prop
  | goes (pc : RunPc) (hfrom : s.pc.Looping) (hto : pc.Looping) : RunMove s { s with pc := pc }
  | returns (afterShutdown : Bool) (hfrom : s.pc.Looping) (hjoined : s.bridges.AllJoined)
      (hfinished : afterShutdown = false → s.connectionFinished = true) :
      RunMove s { s with pc := .returned afterShutdown }
  | spawns (job : Job) (rest : Channel Job bridgeCapacity) (pc : RunPc)
      (hrecv : s.bridgeChannel.recv = some (job, rest))
      (hpc : (s.pc.Looping ∧ pc.Looping) ∨ (s.pc = .drain ∧ pc = .drain)) :
      RunMove s (s.spawnBridge job rest pc)
  | closes (hfrom : s.pc.Looping) :
      RunMove s { s with bridgeChannelOpen := false, pc := .loopTop }
  | completes (hnot : s.connectionFinished = false) :
      RunMove s { s with
        connectionFinished := true
        queuedAtCompletion := some s.bridgeChannel.sent
        pc := .drain }
  | drained (hfrom : s.pc = .drain) (hempty : s.bridgeChannel.recv = none) :
      RunMove s { s with pc := .loopTop }
  | joins (i : Nat) (bridges : JoinSet Job) (pc : RunPc)
      (hjoin : s.bridges.joinNext i = some bridges) (hfrom : s.pc.Looping) (hto : pc.Looping) :
      RunMove s { s with bridges := bridges, pc := pc }
  | aborts (hfrom : s.pc.Looping) :
      RunMove s { s with bridges := s.bridges.abortAll, pc := .joinAborted }

theorem runMove_of_runStep {poll : Poll} (h : s.runStep poll = some s') : RunMove s s' := by
  unfold ConnectionState.runStep at h
  cases hpc : s.pc with
  | loopTop =>
      have hfrom : s.pc.Looping := by rw [hpc]; trivial
      cases poll with
      | pending => simp [hpc] at h
      | joins i => simp [hpc] at h
      | ready =>
          simp only [hpc] at h
          split at h
          · rename_i hdone
            rw [Bool.and_eq_true] at hdone
            rw [← Option.some.inj h]
            exact .returns false hfrom (JoinSet.isEmpty_iff.mp hdone.2) fun _ => hdone.1
          · rw [← Option.some.inj h]
            exact .goes _ hfrom trivial
  | pollShutdown =>
      have hfrom : s.pc.Looping := by rw [hpc]; trivial
      cases poll with
      | joins i => simp [hpc] at h
      | pending =>
          simp only [hpc, Option.some.injEq] at h
          exact h ▸ .goes _ hfrom trivial
      | ready =>
          simp only [hpc] at h
          split at h
          · rw [← Option.some.inj h]
            exact .goes _ hfrom trivial
          · exact absurd h (by simp)
  | pollBridge =>
      have hfrom : s.pc.Looping := by rw [hpc]; trivial
      cases poll with
      | joins i => simp [hpc] at h
      | pending =>
          simp only [hpc, Option.some.injEq] at h
          exact h ▸ .goes _ hfrom trivial
      | ready =>
          simp only [hpc] at h
          split at h
          · split at h
            · rename_i job rest hrecv
              rw [← Option.some.inj h]
              exact .spawns job rest _ hrecv (Or.inl ⟨hfrom, trivial⟩)
            · split at h
              · exact absurd h (by simp)
              · rw [← Option.some.inj h]
                exact .closes hfrom
          · exact absurd h (by simp)
  | pollConnection =>
      have hfrom : s.pc.Looping := by rw [hpc]; trivial
      cases poll with
      | joins i => simp [hpc] at h
      | pending =>
          simp only [hpc, Option.some.injEq] at h
          exact h ▸ .goes _ hfrom trivial
      | ready =>
          simp only [hpc] at h
          split at h
          · exact absurd h (by simp)
          · rename_i hnot
            rw [← Option.some.inj h]
            exact .completes (Bool.eq_false_iff.mpr hnot)
  | pollJoin =>
      have hfrom : s.pc.Looping := by rw [hpc]; trivial
      cases poll with
      | ready => simp [hpc] at h
      | pending =>
          simp only [hpc, Option.some.injEq] at h
          exact h ▸ .goes _ hfrom trivial
      | joins i =>
          simp only [hpc] at h
          split at h
          · rename_i bridges hjoin
            rw [← Option.some.inj h]
            exact .joins i bridges _ hjoin hfrom trivial
          · exact absurd h (by simp)
  | drain =>
      cases poll with
      | pending => simp [hpc] at h
      | joins i => simp [hpc] at h
      | ready =>
          simp only [hpc] at h
          split at h
          · rename_i job rest hrecv
            rw [← Option.some.inj h]
            exact .spawns job rest _ hrecv (Or.inr ⟨hpc, rfl⟩)
          · rename_i hempty
            rw [← Option.some.inj h]
            exact .drained hpc hempty
  | abort =>
      have hfrom : s.pc.Looping := by rw [hpc]; trivial
      cases poll with
      | pending => simp [hpc] at h
      | joins i => simp [hpc] at h
      | ready =>
          simp only [hpc, Option.some.injEq] at h
          exact h ▸ .aborts hfrom
  | joinAborted =>
      have hfrom : s.pc.Looping := by rw [hpc]; trivial
      cases poll with
      | pending => simp [hpc] at h
      | joins i =>
          simp only [hpc] at h
          split at h
          · rename_i bridges hjoin
            rw [← Option.some.inj h]
            have hmove := RunMove.joins i bridges s.pc hjoin hfrom hfrom
            rwa [hpc] at hmove
          · exact absurd h (by simp)
      | ready =>
          simp only [hpc] at h
          split at h
          · rename_i hempty
            rw [← Option.some.inj h]
            exact .returns true hfrom (JoinSet.isEmpty_iff.mp hempty) (by simp)
          · exact absurd h (by simp)
  | returned afterShutdown => cases poll <;> simp [hpc] at h

/-! ### The invariant -/

/-- What had been queued when the connection completed, `queued`, is accounted for. -/
structure Completed (s : ConnectionState Job) (queued : List Job) : Prop where
  noted : s.queuedAtCompletion = some queued
  sent : queued <+: s.bridgeChannel.sent
  received : s.pc ≠ .drain → queued <+: s.bridgeChannel.received

structure ConnectionInv (s : ConnectionState Job) : Prop where
  spawned : s.bridges.spawned = s.bridgeChannel.received
  completed : s.connectionFinished = true → ∃ queued, Completed s queued
  returned : ∀ afterShutdown, s.pc = .returned afterShutdown →
    s.bridges.AllJoined ∧ (afterShutdown = false → s.connectionFinished = true)

theorem connectionInv_init : ConnectionInv (ConnectionState.init : ConnectionState Job) :=
  ⟨rfl, by simp [ConnectionState.init], by simp [ConnectionState.init]⟩

/-- A move from a place in the loop that sends nothing leaves the completion accounted for. -/
theorem completed_of_looping (inv : ConnectionInv s) (hfrom : s.pc.Looping)
    (hfinished : s.connectionFinished = true)
    (hnoted : s'.queuedAtCompletion = s.queuedAtCompletion)
    (hsent : s'.bridgeChannel.sent = s.bridgeChannel.sent)
    (hreceived : s.bridgeChannel.received <+: s'.bridgeChannel.received) :
    ∃ queued, Completed s' queued := by
  obtain ⟨queued, hq⟩ := inv.completed hfinished
  refine ⟨queued, hnoted.trans hq.noted, ?_, fun _ => ?_⟩
  · rw [hsent]
    exact hq.sent
  · exact (hq.received hfrom.ne_drain).trans hreceived

theorem connectionInv_runMove (inv : ConnectionInv s) (move : RunMove s s') :
    ConnectionInv s' := by
  cases move with
  | goes pc hfrom hto =>
      refine ⟨inv.spawned, fun hfinished => ?_, fun b hpc => absurd hpc (hto.ne_returned b)⟩
      exact completed_of_looping inv hfrom hfinished rfl rfl (List.prefix_refl _)
  | returns afterShutdown hfrom hjoined hfinished =>
      refine ⟨inv.spawned, fun hfin => ?_, fun b hpc => ⟨hjoined, ?_⟩⟩
      · exact completed_of_looping inv hfrom hfin rfl rfl (List.prefix_refl _)
      · rintro rfl
        exact hfinished (RunPc.returned.inj hpc)
  | spawns job rest pc hrecv hpc =>
      obtain ⟨hsent, hreceived⟩ := Channel.received_of_recv hrecv
      have hgrows : s.bridgeChannel.received <+: rest.received := by
        rw [hreceived]
        exact List.prefix_append _ _
      refine ⟨?_, fun hfinished => ?_, fun b hb => ?_⟩
      · show (s.bridges.spawn job).spawned = rest.received
        rw [JoinSet.spawned_spawn, inv.spawned, hreceived]
      · rcases hpc with ⟨hfrom, -⟩ | ⟨-, hdrain⟩
        · exact completed_of_looping inv hfrom hfinished rfl hsent hgrows
        · obtain ⟨queued, hq⟩ := inv.completed hfinished
          refine ⟨queued, hq.noted, ?_, fun hne => absurd hdrain hne⟩
          show queued <+: rest.sent
          rw [hsent]
          exact hq.sent
      · have hb' : pc = .returned b := hb
        rcases hpc with ⟨-, hto⟩ | ⟨-, hdrain⟩
        · exact absurd hb' (hto.ne_returned b)
        · rw [hdrain] at hb'
          exact absurd hb' (by simp)
  | closes hfrom =>
      refine ⟨inv.spawned, fun hfinished => ?_, by simp⟩
      exact completed_of_looping inv hfrom hfinished rfl rfl (List.prefix_refl _)
  | completes hnot =>
      exact ⟨inv.spawned, fun _ => ⟨_, rfl, List.prefix_refl _, fun hne => absurd rfl hne⟩, by simp⟩
  | drained hfrom hempty =>
      -- the buffer is empty, so everything that was sent has been received
      refine ⟨inv.spawned, fun hfinished => ?_, by simp⟩
      obtain ⟨queued, hq⟩ := inv.completed hfinished
      refine ⟨queued, hq.noted, hq.sent, fun _ => ?_⟩
      show queued <+: s.bridgeChannel.received
      rw [Channel.received_eq_sent hempty]
      exact hq.sent
  | joins i bridges pc hjoin hfrom hto =>
      refine ⟨?_, fun hfinished => ?_, fun b hpc => absurd hpc (hto.ne_returned b)⟩
      · exact (JoinSet.spawned_of_joinNext hjoin).trans inv.spawned
      · exact completed_of_looping inv hfrom hfinished rfl rfl (List.prefix_refl _)
  | aborts hfrom =>
      refine ⟨?_, fun hfinished => ?_, by simp⟩
      · exact (JoinSet.spawned_abortAll s.bridges).trans inv.spawned
      · exact completed_of_looping inv hfrom hfinished rfl rfl (List.prefix_refl _)

/-- **Every event keeps the invariant.** -/
theorem connectionInv_step {event : ConnectionEvent Job} (inv : ConnectionInv s)
    (h : connectionMachine.step s event = some s') : ConnectionInv s' := by
  cases event with
  | run poll => exact connectionInv_runMove inv (runMove_of_runStep h)
  | dropSenders =>
      rw [← Option.some.inj h]
      refine ⟨inv.spawned, fun hfinished => ?_, inv.returned⟩
      obtain ⟨queued, hq⟩ := inv.completed hfinished
      exact ⟨queued, hq.noted, hq.sent, hq.received⟩
  | shutdown =>
      rw [← Option.some.inj h]
      refine ⟨inv.spawned, fun hfinished => ?_, inv.returned⟩
      obtain ⟨queued, hq⟩ := inv.completed hfinished
      exact ⟨queued, hq.noted, hq.sent, hq.received⟩
  | queue job =>
      simp only [connectionMachine] at h
      split at h
      · split at h
        · rename_i channel hsend
          obtain ⟨hsent, hreceived⟩ := Channel.sent_of_send hsend
          rw [← Option.some.inj h]
          refine ⟨inv.spawned.trans hreceived.symm, fun hfinished => ?_, inv.returned⟩
          obtain ⟨queued, hq⟩ := inv.completed hfinished
          refine ⟨queued, hq.noted, ?_, fun hne => ?_⟩
          · show queued <+: channel.sent
            rw [hsent]
            exact hq.sent.trans (List.prefix_append _ _)
          · show queued <+: channel.received
            rw [hreceived]
            exact hq.received hne
        · exact absurd h (by simp)
      · exact absurd h (by simp)
  | bridgeEnds i outcome =>
      simp only [connectionMachine] at h
      split at h
      · rename_i bridges hfinish
        rw [← Option.some.inj h]
        refine ⟨(JoinSet.spawned_of_finish hfinish).trans inv.spawned, fun hfinished => ?_,
          fun b hpc => ?_⟩
        · obtain ⟨queued, hq⟩ := inv.completed hfinished
          exact ⟨queued, hq.noted, hq.sent, hq.received⟩
        · -- after the return no bridge is left that could end
          rw [JoinSet.finish_of_allJoined (inv.returned b hpc).1] at hfinish
          exact absurd hfinish (by simp)
      · exact absurd h (by simp)

/-! ### The moment of completion -/

/-- What was noted at the completion is kept. -/
def KeepsNote (s s' : ConnectionState Job) : Prop :=
  s.connectionFinished = true →
    s'.connectionFinished = true ∧ s'.queuedAtCompletion = s.queuedAtCompletion

theorem keepsNote_step {event : ConnectionEvent Job}
    (h : connectionMachine.step s event = some s') : KeepsNote s s' := by
  intro hfinished
  cases event with
  | run poll =>
      cases runMove_of_runStep h with
      | completes hnot =>
          rw [hfinished] at hnot
          exact absurd hnot (by simp)
      | _ => exact ⟨hfinished, rfl⟩
  | dropSenders => exact Option.some.inj h ▸ ⟨hfinished, rfl⟩
  | shutdown => exact Option.some.inj h ▸ ⟨hfinished, rfl⟩
  | queue job =>
      simp only [connectionMachine] at h
      split at h
      · split at h
        · exact Option.some.inj h ▸ ⟨hfinished, rfl⟩
        · exact absurd h (by simp)
      · exact absurd h (by simp)
  | bridgeEnds i outcome =>
      simp only [connectionMachine] at h
      split at h
      · exact Option.some.inj h ▸ ⟨hfinished, rfl⟩
      · exact absurd h (by simp)

/-- The step in which the connection completes notes what has been queued. -/
theorem noted_of_completing (hpc : s.pc = .pollConnection) (h : s.runStep .ready = some s') :
    s'.connectionFinished = true ∧ s'.queuedAtCompletion = some s.bridgeChannel.sent := by
  simp only [ConnectionState.runStep, hpc] at h
  split at h
  · exact absurd h (by simp)
  · exact Option.some.inj h ▸ ⟨rfl, rfl⟩

/-- **No tunnel is lost, duplicated or leaked.**  In every interleaving the bridges spawned are
the jobs taken from the channel, in the order they were queued; when `run` has returned, every
bridge it spawned has been joined; and if it returned without shutdown, the connection had
completed, and these bridges are those of all the jobs queued by the step in which it did, and
perhaps of later ones. -/
theorem connection_run {events : List (ConnectionEvent Job)}
    (hrun : connectionMachine.run .init events = some s) :
    s.bridges.spawned = s.bridgeChannel.received ∧
    s.bridgeChannel.received <+: s.bridgeChannel.sent ∧
    (∀ afterShutdown, s.pc = .returned afterShutdown → s.bridges.AllJoined) ∧
    (s.pc = .returned false → s.connectionFinished = true ∧
      ∀ before after u v, events = before ++ .run .ready :: after →
        connectionMachine.run .init before = some u → u.pc = .pollConnection →
          u.runStep .ready = some v → u.bridgeChannel.sent <+: s.bridges.spawned) := by
  have inv : ConnectionInv s :=
    Machine.run_invariant (fun _ _ _ => connectionInv_step) connectionInv_init hrun
  refine ⟨inv.spawned, s.bridgeChannel.received_prefix, fun b hpc => (inv.returned b hpc).1,
    fun hpc => ⟨(inv.returned false hpc).2 rfl, ?_⟩⟩
  intro before after u v hevents hbefore hu hstep
  obtain ⟨hfinished, hnoted⟩ := noted_of_completing hu hstep
  have hafter : connectionMachine.run v after = some s := by
    rw [hevents, Machine.run_append, hbefore] at hrun
    obtain ⟨v', hv', hrest⟩ := (Machine.run_cons_eq_some _).mp hrun
    have hv : v = v' := Option.some.inj (hstep.symm.trans hv')
    rw [hv]
    exact hrest
  have hkept : KeepsNote v s := by
    refine Machine.run_related (fun a ha => ⟨ha, rfl⟩) (fun a b c hab hbc ha => ?_)
      (fun a e b => keepsNote_step) hafter
    obtain ⟨hb, hnote⟩ := hab ha
    exact ⟨(hbc hb).1, (hbc hb).2.trans hnote⟩
  obtain ⟨queued, hq⟩ := inv.completed ((inv.returned false hpc).2 rfl)
  have hqueued : queued = u.bridgeChannel.sent := by
    have hsome := hq.noted.symm.trans ((hkept hfinished).2.trans hnoted)
    exact Option.some.inj hsome
  rw [← hqueued, inv.spawned]
  exact hq.received (by simp [hpc])

/-- A handler queues a job while the connection is polled for the last time.  It is drained, its
bridge panics and is joined, and only then `run` returns. -/
def lateJobEvents : List (ConnectionEvent Nat) :=
  [.run .ready, .run .pending, .run .pending, .queue 7, .run .ready, .run .ready, .run .ready,
   .run .ready, .run .pending, .run .pending, .run .pending, .bridgeEnds 0 .panicked,
   .run (.joins 0), .run .ready]

theorem connection_run_late_job :
    ∃ s, connectionMachine.run .init lateJobEvents = some s ∧ s.pc = .returned false ∧
      s.bridges.spawned = [7] ∧ s.bridges.AllJoined := by
  have hend : (connectionMachine.run .init lateJobEvents).map
      (fun s => (s.pc, s.bridges.spawned)) = some (.returned false, [7]) := by decide
  obtain ⟨s, hs, hpair⟩ := Option.map_eq_some_iff.mp hend
  rw [Prod.mk.injEq] at hpair
  exact ⟨s, hs, hpair.1, hpair.2, (connection_run hs).2.2.1 false hpair.1⟩

end TlsPlus
