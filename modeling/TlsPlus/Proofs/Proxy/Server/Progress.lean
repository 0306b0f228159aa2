/-
A server that was told to stop gets there.

That a reported stop is complete says nothing of a stop that is never reported.  So:
a server task that was signalled can always take a step, unless it has sent its
completion or waits for nothing but tasks it has asked to abort; and from the moment
it has taken the signal its steps are numbered, since it accepts nothing more and
each connection task has to end once and to be joined once.
-/
import TlsPlus.Proofs.Proxy.Server.Signal

namespace TlsPlus

variable {Conn : Type} {task task' : ServerTask Conn} {event : TaskEvent Conn}

/-! ### Never stuck -/

/-- The server task takes the step itself, its grace timer's included. -/
def TaskEvent.isOwn : TaskEvent Conn → Bool
  | .signal => false
  | .accept _ => false
  | .connectionEnds _ _ => false
  | _ => true

/-- What a server task's place in its code says of it. -/
structure PlaceInv (task : ServerTask Conn) : Prop where
  aborting : task.pc = .aborting → task.connections.NoneRunning
  ended : task.pc = .ended → task.completed = true

theorem placeInv_step (inv : PlaceInv task) (h : task.step event = some task') :
    PlaceInv task' := by
  cases taskMove_of_step h with
  | leaves hpc hsignal => exact ⟨fun h' => absurd h' (by simp), fun h' => absurd h' (by simp)⟩
  | accepts connection hpc => exact ⟨fun h' => absurd h' (by simp [hpc]), inv.ended⟩
  | connectionEnds i outcome connections hfinish =>
      exact ⟨fun h' => (inv.aborting h').finish hfinish, inv.ended⟩
  | joins i connections hjoining hjoin =>
      exact ⟨fun h' => (inv.aborting h').joinNext hjoin, inv.ended⟩
  | closes hpc => exact ⟨fun h' => absurd h' (by simp), fun h' => absurd h' (by simp)⟩
  | expires hpc =>
      exact ⟨fun _ => JoinSet.noneRunning_abortAll _, fun h' => absurd h' (by simp)⟩
  | drained hpc hjoined =>
      exact ⟨fun h' => absurd h' (by simp), fun h' => absurd h' (by simp)⟩
  | completes hpc => exact ⟨fun h' => absurd h' (by simp), fun _ => rfl⟩
  | _ => exact ⟨inv.aborting, inv.ended⟩

/-- A task left in the set has ended, and can be joined, or waits to be aborted, or runs. -/
theorem exists_unjoined {s : JoinSet Conn} (h : s.isEmpty = false) :
    ∃ i, (∃ s', s.joinNext i = some s') ∨ ∃ job phase, s.tasks[i]? = some ⟨job, phase⟩ ∧
      (phase = .running ∨ phase = .aborting) := by
  have hexists : ∃ t ∈ s.tasks, t.phase.isJoined = false := by
    simpa [JoinSet.isEmpty] using h
  obtain ⟨t, ht, hphase⟩ := hexists
  obtain ⟨i, hi⟩ := List.mem_iff_getElem?.mp ht
  obtain ⟨job, phase⟩ := t
  cases phase with
  | running => exact ⟨i, Or.inr ⟨job, _, hi, Or.inl rfl⟩⟩
  | aborting => exact ⟨i, Or.inr ⟨job, _, hi, Or.inr rfl⟩⟩
  | ended outcome =>
      exact ⟨i, Or.inl (Option.isSome_iff_exists.mp (by simp [JoinSet.joinNext, hi]))⟩
  | joined outcome => exact absurd hphase (by simp [TaskPhase.isJoined])

/-- A server task waits for a connection's that it has asked to abort. -/
def ServerTask.AwaitsAborted (task : ServerTask Conn) : Prop :=
  task.pc = .aborting ∧ ∃ (i : Nat) (job : Conn), task.connections.tasks[i]? = some ⟨job, .aborting⟩

/-- **A signalled server task is not stuck.** -/
theorem not_stuck (inv : PlaceInv task) (hsignal : task.signalled = true) :
    task.completed = true ∨ task.AwaitsAborted ∨
      ∃ event, event.isOwn = true ∧ (task.step event).isSome = true := by
  cases hpc : task.pc with
  | accepting =>
      exact Or.inr (Or.inr ⟨.takeShutdown, rfl, by simp [ServerTask.step, hpc, hsignal]⟩)
  | left => exact Or.inr (Or.inr ⟨.dropListener, rfl, by simp [ServerTask.step, hpc]⟩)
  | draining =>
      refine Or.inr (Or.inr ?_)
      cases hempty : task.connections.isEmpty with
      | true => exact ⟨.nothingLeft, rfl, by simp [ServerTask.step, hpc, hempty]⟩
      | false => exact ⟨.graceExpires, rfl, by simp [ServerTask.step, hpc, hempty]⟩
  | aborting =>
      cases hempty : task.connections.isEmpty with
      | true => exact Or.inr (Or.inr ⟨.nothingLeft, rfl, by simp [ServerTask.step, hpc, hempty]⟩)
      | false =>
          obtain ⟨i, ⟨joined, hjoin⟩ | ⟨job, phase, hi, hrunning | haborting⟩⟩ :=
            exists_unjoined hempty
          · exact Or.inr (Or.inr ⟨.join i, rfl, by
              simp [ServerTask.step, ServerTask.joining, hpc, hjoin]⟩)
          · exact absurd hrunning (inv.aborting hpc _ (List.mem_of_getElem? hi))
          · exact Or.inr (Or.inl ⟨hpc, i, job, haborting ▸ hi⟩)
  | drained => exact Or.inr (Or.inr ⟨.complete, rfl, by simp [ServerTask.step, hpc]⟩)
  | ended => exact Or.inl (inv.ended hpc)

/-! ### Steps that are left -/

def TaskPc.stepsLeft : TaskPc → Nat
  | .accepting => 5
  | .left => 4
  | .draining => 3
  | .aborting => 2
  | .drained => 1
  | .ended => 0

def ServerTask.stepsLeft (task : ServerTask Conn) : Nat :=
  task.pc.stepsLeft + task.connections.stepsLeft

def TaskEvent.isSignal : TaskEvent Conn → Bool
  | .signal => true
  | _ => false

theorem left_of_step (hleft : task.pc ≠ .accepting) (h : task.step event = some task') :
    task'.pc ≠ .accepting := by
  cases taskMove_of_step h with
  | leaves hpc hsignal => exact absurd hpc hleft
  | closes hpc => exact fun h' => absurd h' (by simp)
  | expires hpc => exact fun h' => absurd h' (by simp)
  | drained hpc hjoined => exact fun h' => absurd h' (by simp)
  | completes hpc => exact fun h' => absurd h' (by simp)
  | _ => exact hleft

/-- **Outside its accept loop every event of the task is one less to come.** -/
theorem stepsLeft_of_step (hleft : task.pc ≠ .accepting) (h : task.step event = some task') :
    task'.stepsLeft ≤ task.stepsLeft ∧
      ((!event.isSignal) = true → task'.stepsLeft < task.stepsLeft) := by
  have hless : event = .signal ∧ task'.stepsLeft = task.stepsLeft ∨
      task'.stepsLeft < task.stepsLeft := by
    unfold ServerTask.stepsLeft
    cases taskMove_of_step h with
    | signalled => exact Or.inl ⟨rfl, rfl⟩
    | leaves hpc hsignal => exact absurd hpc hleft
    | accepts connection hpc => exact absurd hpc hleft
    | acceptFails error hpc => exact absurd hpc hleft
    | connectionEnds i outcome connections hfinish =>
        have hone := JoinSet.stepsLeft_of_finish hfinish
        exact Or.inr (by simp only; omega)
    | joins i connections hjoining hjoin =>
        have hone := JoinSet.stepsLeft_of_joinNext hjoin
        exact Or.inr (by simp only; omega)
    | closes hpc => exact Or.inr (by simp [hpc, TaskPc.stepsLeft])
    | expires hpc => exact Or.inr (by simp [hpc, TaskPc.stepsLeft, JoinSet.stepsLeft_abortAll])
    | drained hpc hjoined =>
        rcases hpc with hpc | hpc <;> exact Or.inr (by simp [hpc, TaskPc.stepsLeft])
    | completes hpc => exact Or.inr (by simp [hpc, TaskPc.stepsLeft])
  rcases hless with ⟨rfl, hsame⟩ | hlt
  · exact ⟨Nat.le_of_eq hsame, fun h' => absurd h' (by simp [TaskEvent.isSignal])⟩
  · exact ⟨Nat.le_of_lt hlt, fun _ => hlt⟩

/-! ### Stops of a process -/

variable {p p' : Process Conn} {events more : List (ProcessEvent Conn)} {n : Nat}

/-- A task goes on as its part of the events says. -/
theorem task_of_run (hrun : processMachine.run p more = some p')
    (htask : p.tasks[n]? = some task) :
    ∃ task', p'.tasks[n]? = some task' ∧
      serverTaskMachine.run task (taskTrace n more) = some task' := by
  refine Machine.run_history (P := fun past u => ∃ t, u.tasks[n]? = some t ∧
    serverTaskMachine.run task (taskTrace n past) = some t) ⟨task, htask, rfl⟩
    (fun past u e u' hpast hstep => ?_) hrun
  obtain ⟨t, ht, hpast⟩ := hpast
  obtain ⟨hlt, -⟩ := List.getElem?_eq_some_iff.mp ht
  rw [taskTrace_snoc]
  cases processMove_of_step hstep with
  | starts server fresh hinit hnone =>
      rw [hnone, Option.toList_none, List.append_nil]
      exact ⟨t, by rw [List.getElem?_append_left hlt]; exact ht, hpast⟩
  | returns number completed hcompleted hnone =>
      rw [hnone, Option.toList_none, List.append_nil]
      exact ⟨t, ht, hpast⟩
  | steps moved stopping before after te hbefore hmoved hevent =>
      rw [hevent]
      by_cases hn : moved = n
      · subst hn
        obtain rfl := Option.some.inj (hbefore.symm.trans ht)
        rw [if_pos rfl]
        exact ⟨after, List.getElem?_set_self hlt, Machine.run_snoc hpast hmoved⟩
      · rw [if_neg hn, Option.toList_none, List.append_nil]
        exact ⟨t, by rw [List.getElem?_set_ne hn]; exact ht, hpast⟩

/-- A step of its own is one of the process. -/
theorem step_of_own {e : TaskEvent Conn} (htask : p.tasks[n]? = some task)
    (hown : e.isOwn = true) (h : (task.step e).isSome = true) :
    (p.step (.task n e)).isSome = true := by
  have hstep : p.step (.task n e) = p.stepTask n e := by
    cases e with
    | signal => exact absurd hown (by simp [TaskEvent.isOwn])
    | _ => rfl
  rw [hstep]
  unfold Process.stepTask
  rw [htask]
  simpa using h

theorem placeInv_of_run {listenAddr : Str} {trace : List (TaskEvent Conn)}
    (hrun : serverTaskMachine.run (.init listenAddr) trace = some task) : PlaceInv task := by
  have hinit : PlaceInv (ServerTask.init listenAddr : ServerTask Conn) :=
    ⟨fun h => absurd h (by simp [ServerTask.init]), fun h => absurd h (by simp [ServerTask.init])⟩
  exact Machine.run_invariant (P := PlaceInv) (fun _ _ _ inv h => placeInv_step inv h) hinit hrun

/-- **A stop comes to its end.**  In every interleaving, once a stop has signalled a server's task,
that task has sent its completion, or waits for a connection's task that it has aborted, or can
take a step of its own.  And once it has taken the signal, at most four events of its own and two
for each connection it had accepted are still to come, whatever else happens in the process. -/
theorem stop_terminates (hrun : processMachine.run .init events = some p)
    (htask : p.tasks[n]? = some task) :
    (.stop n ∈ events → task.completed = true ∨ task.AwaitsAborted ∨
      ∃ e : TaskEvent Conn, e.isOwn = true ∧ (p.step (.task n e)).isSome = true) ∧
    (.takeShutdown ∈ taskTrace n events → ∀ more p', processMachine.run p more = some p' →
      (taskTrace n more).countP (fun e => !e.isSignal)
        ≤ 4 + 2 * task.connections.spawned.length) := by
  obtain ⟨listenAddr, htrace⟩ := (processInv_of_run hrun).traced n task htask
  constructor
  · intro hstop
    rcases not_stuck (placeInv_of_run htrace) ((signalled_iff hrun htask).mpr hstop) with
      hcompleted | hawaits | ⟨e, hown, hstep⟩
    · exact Or.inl hcompleted
    · exact Or.inr (Or.inl hawaits)
    · exact Or.inr (Or.inr ⟨e, hown, step_of_own htask hown hstep⟩)
  · intro htaken more p' hmore
    have hleft := (taskInv_of_run htrace).accepting.mpr htaken
    obtain ⟨task', -, htrace'⟩ := task_of_run hmore htask
    have hbound := Machine.run_rank (P := fun t : ServerTask Conn => t.pc ≠ .accepting)
      (fun _ _ _ => left_of_step) (fun _ _ _ => stepsLeft_of_step) hleft htrace'
    have hplace : task.pc.stepsLeft ≤ 4 := by
      cases hpc : task.pc with
      | accepting => exact absurd hpc hleft
      | _ => simp [TaskPc.stepsLeft]
    have hconnections := task.connections.stepsLeft_le
    rw [JoinSet.spawned, List.length_map]
    unfold ServerTask.stepsLeft at hbound
    omega

/-- The stop of the sample history, up to where the grace has expired. -/
theorem stop_terminates_sample :
    ∃ p task, processMachine.run .init (sampleStops.take 13) = some p ∧
      p.tasks[0]? = some task ∧
      (task.completed = true ∨ task.AwaitsAborted ∨
        ∃ e : TaskEvent Nat, e.isOwn = true ∧ (p.step (.task 0 e)).isSome = true) ∧
      ∀ more p', processMachine.run p more = some p' →
        (taskTrace 0 more).countP (fun e => !e.isSignal) ≤ 10 := by
  have hends : (processMachine.run .init (sampleStops.take 13)).map (fun p =>
      p.tasks.map fun task => (task.pc, task.connections.spawned))
      = some [(.aborting, [10, 11, 12])] := by decide
  obtain ⟨p, hrun, hp⟩ := Option.map_eq_some_iff.mp hends
  obtain ⟨task, htasks, htask⟩ := List.map_eq_singleton_iff.mp hp
  rw [Prod.mk.injEq] at htask
  have hget : p.tasks[0]? = some task := by simp [htasks]
  obtain ⟨hgoes, hbound⟩ := stop_terminates hrun hget
  refine ⟨p, task, hrun, hget, hgoes (by simp [sampleStops]), fun more p' hmore => ?_⟩
  have hten := hbound (by simp [sampleStops, taskTrace, ProcessEvent.forTask]) more p' hmore
  rw [htask.2] at hten
  exact hten

end TlsPlus
