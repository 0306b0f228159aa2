/-
No server is forgotten.

A process may start and stop any number of servers, each with a task of its own that
goes on until it is signalled.  The signal can only be sent through the channel that
`ServerState` holds, so a server whose channel were dropped unsent would listen until
the process ends.  `ProcessWatched` says that this does not happen: a task that no
stop has signalled is the one whose channel and address the state holds.
-/
import TlsPlus.Proofs.Proxy.Server.Task

namespace TlsPlus

variable {Conn : Type} {task task' : ServerTask Conn} {trace : List (TaskEvent Conn)}
  {p p' : Process Conn} {events : List (ProcessEvent Conn)} {n : Nat}

/-! ### The signal of a task -/

/-- What a task's signal has to do with its history and its place. -/
structure SignalInv (trace : List (TaskEvent Conn)) (task : ServerTask Conn) : Prop where
  signalled : task.signalled = true ↔ .signal ∈ trace
  flag : task.connectionShutdown = true → task.signalled = true
  serving : task.signalled = false → task.pc = .accepting ∧ task.listening = true

theorem signalInv_step (inv : SignalInv trace task) {event : TaskEvent Conn}
    (h : task.step event = some task') : SignalInv (trace ++ [event]) task' := by
  have hserving : task.pc ≠ .accepting → task.signalled = true := by
    intro hpc
    by_contra hnot
    exact hpc (inv.serving (Bool.eq_false_iff.mpr hnot)).1
  have hmem : event ≠ .signal → (task.signalled = true ↔ .signal ∈ trace ++ [event]) := by
    intro hne
    rw [inv.signalled, List.mem_append, List.mem_singleton, or_iff_left (Ne.symm hne)]
  cases taskMove_of_step h with
  | signalled => exact ⟨iff_of_true rfl (by simp), fun _ => rfl, fun h' => absurd h' (by simp)⟩
  | leaves hpc hsignal =>
      exact ⟨hmem (by simp), fun _ => hsignal, fun h' => absurd h' (by simp [hsignal])⟩
  | closes hpc =>
      have hsignal := hserving (by simp [hpc])
      exact ⟨hmem (by simp), inv.flag, fun h' => absurd h' (by simp [hsignal])⟩
  | expires hpc =>
      have hsignal := hserving (by simp [hpc])
      exact ⟨hmem (by simp), inv.flag, fun h' => absurd h' (by simp [hsignal])⟩
  | drained hpc hjoined =>
      have hsignal : task.signalled = true := by
        rcases hpc with hpc | hpc <;> exact hserving (by simp [hpc])
      exact ⟨hmem (by simp), inv.flag, fun h' => absurd h' (by simp [hsignal])⟩
  | completes hpc =>
      have hsignal := hserving (by simp [hpc])
      exact ⟨hmem (by simp), inv.flag, fun h' => absurd h' (by simp [hsignal])⟩
  | _ => exact ⟨hmem (by simp), inv.flag, inv.serving⟩

theorem signalInv_of_run {listenAddr : Str}
    (hrun : serverTaskMachine.run (.init listenAddr) trace = some task) : SignalInv trace task := by
  have hinit : SignalInv [] (ServerTask.init listenAddr : ServerTask Conn) :=
    ⟨by simp [ServerTask.init], by simp [ServerTask.init], fun _ => ⟨rfl, rfl⟩⟩
  exact Machine.run_history hinit (fun _ _ _ _ inv h => signalInv_step inv h) hrun

/-! ### The stops of a process -/

/-- A signal is that of a stop. -/
theorem stop_mem_of_signal (hrun : processMachine.run .init events = some p)
    (h : .signal ∈ taskTrace n events) : .stop n ∈ events := by
  have hnever : ∀ i, .task i .signal ∉ events := by
    refine Machine.run_history (P := fun past _ => ∀ i, .task i .signal ∉ past) (by simp)
      (fun past u e u' hpast hstep i hmem => ?_) hrun
    rcases List.mem_append.mp hmem with hold | hnew
    · exact hpast i hold
    · rw [← List.mem_singleton.mp hnew] at hstep
      exact absurd hstep (by simp [processMachine, Process.step])
  obtain ⟨event, hmem, hevent⟩ := List.mem_filterMap.mp h
  cases event with
  | stop i =>
      obtain ⟨rfl, -⟩ := Option.ite_none_right_eq_some.mp hevent
      exact hmem
  | task i te =>
      obtain ⟨-, hte⟩ := Option.ite_none_right_eq_some.mp hevent
      rw [Option.some.inj hte] at hmem
      exact absurd hmem (hnever i)
  | _ => exact absurd hevent (by simp [ProcessEvent.forTask])

/-- **A task is signalled exactly if a stop found its channel.** -/
theorem signalled_iff (hrun : processMachine.run .init events = some p)
    (htask : p.tasks[n]? = some task) : task.signalled = true ↔ .stop n ∈ events := by
  obtain ⟨listenAddr, htrace⟩ := (processInv_of_run hrun).traced n task htask
  rw [(signalInv_of_run htrace).signalled]
  exact ⟨stop_mem_of_signal hrun, fun hstop => List.mem_filterMap.mpr ⟨_, hstop, if_pos rfl⟩⟩

/-! ### The server that the state holds -/

/-- A task that was not signalled is the one that the state names, and the state names such a task
unless a stop is at work on it. -/
structure ProcessWatched (p : Process Conn) : Prop where
  idle : p.server.running = false → p.server.shutdown = none ∧ p.server.listenAddr = none
  unsignalled : ∀ i task, p.tasks[i]? = some task → task.signalled = false →
    p.stopping = none ∧ p.server = ⟨true, some task.listenAddr, some ⟨i⟩⟩
  named : p.server.running = true → p.stopping = none →
    ∃ (i : Nat) (task : ServerTask Conn), p.tasks[i]? = some task ∧ task.signalled = false
  stopping : ∀ i, p.stopping = some i → p.server.shutdown = some ⟨i⟩

theorem processWatched_init : ProcessWatched (Process.init : Process Conn) where
  idle _ := ⟨rfl, rfl⟩
  unsignalled i task h := absurd h (by simp [Process.init])
  named h := absurd h (by simp [Process.init, ServerState.init])
  stopping i h := absurd h (by simp [Process.init])

/-- A stop that returns leaves the state empty, which no unsignalled task may rest on. -/
theorem ProcessWatched.returns (watched : ProcessWatched p) (number : Option Nat)
    (completed : Bool) (hdone : p.stopping ≠ none ∨ p.server.shutdown = none) :
    ProcessWatched (p.stopReturns number completed) := by
  have hserver : (p.stopReturns number completed).server = ⟨false, none, none⟩ :=
    stopLocalServer_snd completed p.server
  refine ⟨fun _ => by rw [hserver]; exact ⟨rfl, rfl⟩, fun i task htask hnot => ?_,
    fun hrunning => by rw [hserver] at hrunning; exact absurd hrunning (by simp),
    fun i hstopping => absurd hstopping (by simp [Process.stopReturns])⟩
  obtain ⟨hnone, hnamed⟩ := watched.unsignalled i task htask hnot
  rcases hdone with hstopping | hshutdown
  · exact absurd hnone hstopping
  · exact absurd hshutdown (by simp [hnamed])

/-- A task goes on that is signalled exactly as it was. -/
theorem ProcessWatched.goes (watched : ProcessWatched p) {te : TaskEvent Conn}
    (hte : te ≠ .signal) (h : p.stepTask n te = some p') : ProcessWatched p' := by
  obtain ⟨task, task', htask, hstep, rfl⟩ := stepTask_eq_some h
  obtain ⟨hn, -⟩ := List.getElem?_eq_some_iff.mp htask
  have hsame : task'.signalled = task.signalled ∧ task'.listenAddr = task.listenAddr := by
    cases taskMove_of_step hstep with
    | signalled => exact absurd rfl hte
    | _ => exact ⟨rfl, rfl⟩
  refine ⟨watched.idle, fun i current hcurrent hnot => ?_, fun hrunning hnone => ?_,
    watched.stopping⟩
  · by_cases hi : n = i
    · subst hi
      rw [List.getElem?_set_self hn, Option.some.injEq] at hcurrent
      subst hcurrent
      obtain ⟨hstopping, hnamed⟩ := watched.unsignalled n task htask (hsame.1.symm.trans hnot)
      exact ⟨hstopping, by rw [hsame.2]; exact hnamed⟩
    · rw [List.getElem?_set_ne hi] at hcurrent
      exact watched.unsignalled i current hcurrent hnot
  · obtain ⟨i, current, hcurrent, hnot⟩ := watched.named hrunning hnone
    by_cases hi : n = i
    · subst hi
      obtain rfl := Option.some.inj (htask.symm.trans hcurrent)
      exact ⟨n, task', List.getElem?_set_self hn, hsame.1.trans hnot⟩
    · exact ⟨i, current, by rwa [List.getElem?_set_ne hi], hnot⟩

/-- A stop takes the channel of the task that the state names, and signals it. -/
theorem ProcessWatched.signals (watched : ProcessWatched p)
    (hshutdown : p.server.shutdown = some ⟨n⟩) (h : p.stepTask n .signal = some p') :
    ProcessWatched { p' with stopping := some n } := by
  obtain ⟨task, task', htask, hstep, rfl⟩ := stepTask_eq_some h
  obtain ⟨hn, -⟩ := List.getElem?_eq_some_iff.mp htask
  refine ⟨watched.idle, fun i current hcurrent hnot => ?_, fun _ hnone => absurd hnone (by simp),
    fun i hi => Option.some.inj hi ▸ hshutdown⟩
  by_cases hi : n = i
  · subst hi
    rw [List.getElem?_set_self hn, Option.some.injEq] at hcurrent
    rw [← hcurrent, ← Option.some.inj hstep] at hnot
    exact absurd hnot (by simp)
  · rw [List.getElem?_set_ne hi] at hcurrent
    obtain ⟨-, hnamed⟩ := watched.unsignalled i current hcurrent hnot
    rw [hnamed] at hshutdown
    exact absurd (ServerShutdown.mk.inj (Option.some.inj hshutdown)).symm hi

theorem ProcessWatched.starts (watched : ProcessWatched p) (hnone : p.stopping = none)
    (w : StartWorld) (listenAddr : Str) :
    ProcessWatched { p with
      server := (startLocalServer { w with task := p.tasks.length } p.server listenAddr).2
      tasks := p.tasks ++
        p.spawned (startLocalServer { w with task := p.tasks.length } p.server listenAddr).1 } := by
  unfold Process.spawned
  cases hrunning : p.server.running with
  | true =>
      rw [startLocalServer_running _ _ hrunning, if_pos rfl, List.append_nil]
      exact watched
  | false =>
      rw [if_neg (by simp)]
      rcases startLocalServer_cases { w with task := p.tasks.length } listenAddr hrunning with
        ⟨-, message, hrefused⟩ | ⟨bound, message, -, hopened⟩
      · rw [hrefused]
        show ProcessWatched { p with tasks := p.tasks ++ [] }
        rw [List.append_nil]
        exact watched
      · rw [hopened]
        refine ⟨fun hnot => absurd hnot (by simp), fun i task htask hnot => ?_, fun _ _ => ?_,
          fun i hi => absurd (hnone.symm.trans hi) (by simp)⟩
        · refine ⟨hnone, ?_⟩
          rcases Nat.lt_or_ge i p.tasks.length with hlt | hge
          · -- an unsignalled task would be the running server's
            rw [List.getElem?_append_left hlt] at htask
            obtain ⟨-, hnamed⟩ := watched.unsignalled i task htask hnot
            exact absurd hrunning (by simp [hnamed])
          · rw [List.getElem?_append_right hge] at htask
            obtain ⟨hi, hget⟩ := List.getElem?_eq_some_iff.mp htask
            have hfirst : i - p.tasks.length = 0 := by simpa using hi
            have hlast : i = p.tasks.length := by omega
            have htask' : task = .init bound.display := by
              rw [← hget]
              simp [hfirst]
            rw [htask', hlast]
            rfl
        · exact ⟨p.tasks.length, .init bound.display, by simp, rfl⟩

theorem ProcessWatched.step (watched : ProcessWatched p) {event : ProcessEvent Conn}
    (h : p.step event = some p') : ProcessWatched p' := by
  cases event with
  | start w listenAddr =>
      obtain ⟨hnone, hp'⟩ := Option.ite_none_right_eq_some.mp h
      rw [← Option.some.inj hp']
      exact watched.starts hnone w listenAddr
  | stop i =>
      obtain ⟨⟨-, hshutdown⟩, hmap⟩ := Option.ite_none_right_eq_some.mp h
      obtain ⟨stepped, hstepped, rfl⟩ := Option.map_eq_some_iff.mp hmap
      exact watched.signals hshutdown hstepped
  | stopNothing =>
      obtain ⟨⟨-, hshutdown⟩, hp'⟩ := Option.ite_none_right_eq_some.mp h
      rw [← Option.some.inj hp']
      exact watched.returns none false (Or.inr hshutdown)
  | receiveCompletion =>
      simp only [Process.step] at h
      split at h
      · rename_i i hstopping
        split at h
        · obtain ⟨-, hp'⟩ := Option.ite_none_right_eq_some.mp h
          rw [← Option.some.inj hp']
          exact watched.returns (some i) true (Or.inl (by simp [hstopping]))
        · exact absurd h (by simp)
      · exact absurd h (by simp)
  | stopTimesOut =>
      simp only [Process.step] at h
      split at h
      · rename_i i hstopping
        rw [← Option.some.inj h]
        exact watched.returns (some i) false (Or.inl (by simp [hstopping]))
      · exact absurd h (by simp)
  | task i te =>
      cases te with
      | signal => exact absurd h (by simp [Process.step])
      | _ => exact watched.goes (by simp) h

theorem processWatched_of_run (hrun : processMachine.run .init events = some p) :
    ProcessWatched p :=
  Machine.run_invariant (P := ProcessWatched) (fun _ _ _ watched h => watched.step h)
    processWatched_init hrun

/-- **No server is forgotten, and no two serve at once.**  In every interleaving a server that was
started and that no stop has signalled still accepts connections, it is the one whose address the
status reports and whose channel the next stop finds, and there is no other.  And while no stop is
at work, a status that says a server runs is that of such a server. -/
theorem no_server_forgotten (hrun : processMachine.run .init events = some p) :
    (∀ i task, p.tasks[i]? = some task → .stop i ∉ events →
      (task.pc = .accepting ∧ task.listening = true) ∧
      (serverStatus (some p.server)).running = true ∧
      (serverStatus (some p.server)).listenAddr = some task.listenAddr ∧
      (p.step (.stop i)).isSome = true ∧
      ∀ j task', p.tasks[j]? = some task' → .stop j ∉ events → j = i) ∧
    ((serverStatus (some p.server)).running = true → p.stopping = none →
      ∃ i task, p.tasks[i]? = some task ∧ .stop i ∉ events) := by
  have watched := processWatched_of_run hrun
  have hunsignalled : ∀ i task, p.tasks[i]? = some task → .stop i ∉ events →
      task.signalled = false := by
    intro i task htask hnot
    by_contra hsignal
    rw [Bool.not_eq_false] at hsignal
    exact hnot ((signalled_iff hrun htask).mp hsignal)
  constructor
  · intro i task htask hnot
    have hsignal := hunsignalled i task htask hnot
    obtain ⟨hstopping, hserver⟩ := watched.unsignalled i task htask hsignal
    obtain ⟨listenAddr, htrace⟩ := (processInv_of_run hrun).traced i task htask
    refine ⟨(signalInv_of_run htrace).serving hsignal, ?_, ?_, ?_, fun j task' htask' hnot' => ?_⟩
    · rw [hserver]
      rfl
    · rw [hserver]
      rfl
    · simp [Process.step, Process.stepTask, hstopping, hserver, htask, ServerTask.step]
    · obtain ⟨-, hserver'⟩ :=
        watched.unsignalled j task' htask' (hunsignalled j task' htask' hnot')
      have hsame := (ServerState.mk.inj (hserver'.symm.trans hserver)).2.2
      exact ServerShutdown.mk.inj (Option.some.inj hsame)
  · intro hrunning hstopping
    obtain ⟨i, task, htask, hsignal⟩ := watched.named hrunning hstopping
    refine ⟨i, task, htask, fun hstop => ?_⟩
    exact absurd ((signalled_iff hrun htask).mpr hstop) (by simp [hsignal])

/-- After the sample history the second server is the one that the state holds. -/
theorem no_server_forgotten_sample :
    ∃ p, processMachine.run .init sampleStops = some p ∧
      ∃ i task, p.tasks[i]? = some task ∧ .stop i ∉ sampleStops := by
  have hends : (processMachine.run .init sampleStops).map (fun p =>
      (p.server.running, p.stopping)) = some (true, none) := by decide
  obtain ⟨p, hrun, hp⟩ := Option.map_eq_some_iff.mp hends
  rw [Prod.mk.injEq] at hp
  exact ⟨p, hrun, (no_server_forgotten hrun).2 hp.1 hp.2⟩

end TlsPlus
