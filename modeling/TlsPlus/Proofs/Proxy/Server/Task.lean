/-
A reported stop is a complete stop.

The history of a server task says what it has done: which connections it accepted,
which of their tasks it joined, whether it took the signal and closed its
listener.  `TaskInv` ties the task's state to that history, so the order in which
things happened can be read off the state: the task is past its accept loop
exactly if it took the signal, and it is past its last join only if nothing is
left.

A process runs each of its server tasks on its own part of the history
(`ProcessInv`), and a stop that is told of the completion returns after it.
-/
import Mathlib.Data.List.Pairwise
import TlsPlus.Proxy.Server.Task
import TlsPlus.Proofs.Proxy.Server

namespace TlsPlus

variable {Conn : Type} {task task' : ServerTask Conn} {trace : List (TaskEvent Conn)}

/-! ### What a step of a server task can do -/

inductive TaskMove (task : ServerTask Conn) : TaskEvent Conn → ServerTask Conn → Prop
  | signalled : TaskMove task .signal { task with signalled := true }
  | leaves (hpc : task.pc = .accepting) (hsignal : task.signalled = true) :
      TaskMove task .takeShutdown { task with pc := .left, connectionShutdown := true }
  | accepts (connection : Conn) (hpc : task.pc = .accepting) :
      TaskMove task (.accept (.ok connection))
        { task with connections := task.connections.spawn connection }
  | acceptFails (error : Str) (hpc : task.pc = .accepting) :
      TaskMove task (.accept (.error error)) task
  | connectionEnds (i : Nat) (outcome : TaskOutcome) (connections : JoinSet Conn)
      (hfinish : task.connections.finish i outcome = some connections) :
      TaskMove task (.connectionEnds i outcome) { task with connections := connections }
  | joins (i : Nat) (connections : JoinSet Conn) (hjoining : task.joining = true)
      (hjoin : task.connections.joinNext i = some connections) :
      TaskMove task (.join i) { task with connections := connections }
  | closes (hpc : task.pc = .left) :
      TaskMove task .dropListener { task with pc := .draining, listening := false }
  | expires (hpc : task.pc = .draining) :
      TaskMove task .graceExpires
        { task with pc := .aborting, connections := task.connections.abortAll }
  | drained (hpc : task.pc = .draining ∨ task.pc = .aborting)
      (hjoined : task.connections.AllJoined) :
      TaskMove task .nothingLeft { task with pc := .drained }
  | completes (hpc : task.pc = .drained) :
      TaskMove task .complete { task with pc := .ended, completed := true }

theorem taskMove_of_step {event : TaskEvent Conn} (h : task.step event = some task') :
    TaskMove task event task' := by
  cases event with
  | signal =>
      rw [← Option.some.inj h]
      exact .signalled
  | takeShutdown =>
      obtain ⟨⟨hpc, hsignal⟩, htask⟩ := Option.ite_none_right_eq_some.mp h
      rw [← Option.some.inj htask]
      exact .leaves hpc hsignal
  | accept result =>
      obtain ⟨hpc, htask⟩ := Option.ite_none_right_eq_some.mp h
      cases result with
      | ok connection =>
          rw [← Option.some.inj htask]
          exact .accepts connection hpc
      | error e =>
          rw [← Option.some.inj htask]
          exact .acceptFails e hpc
  | connectionEnds i outcome =>
      obtain ⟨connections, hfinish, htask⟩ := Option.map_eq_some_iff.mp h
      rw [← htask]
      exact .connectionEnds i outcome connections hfinish
  | join i =>
      obtain ⟨hjoining, hmap⟩ := Option.ite_none_right_eq_some.mp h
      obtain ⟨connections, hjoin, htask⟩ := Option.map_eq_some_iff.mp hmap
      rw [← htask]
      exact .joins i connections hjoining hjoin
  | dropListener =>
      obtain ⟨hpc, htask⟩ := Option.ite_none_right_eq_some.mp h
      rw [← Option.some.inj htask]
      exact .closes hpc
  | graceExpires =>
      obtain ⟨⟨hpc, -⟩, htask⟩ := Option.ite_none_right_eq_some.mp h
      rw [← Option.some.inj htask]
      exact .expires hpc
  | nothingLeft =>
      obtain ⟨⟨hpc, hempty⟩, htask⟩ := Option.ite_none_right_eq_some.mp h
      rw [← Option.some.inj htask]
      exact .drained hpc (JoinSet.isEmpty_iff.mp hempty)
  | complete =>
      obtain ⟨hpc, htask⟩ := Option.ite_none_right_eq_some.mp h
      rw [← Option.some.inj htask]
      exact .completes hpc

/-! ### The task and its history -/

/-- The connection an event hands to the task. -/
def TaskEvent.accepted : TaskEvent Conn → Option Conn
  | .accept (.ok connection) => some connection
  | _ => none

/-- The event joins the connection task at position `i`. -/
def TaskEvent.joins (i : Nat) : TaskEvent Conn → Bool
  | .join j => j == i
  | _ => false

def TaskEvent.accepts : TaskEvent Conn → Bool
  | .accept _ => true
  | _ => false

structure TaskInv (trace : List (TaskEvent Conn)) (task : ServerTask Conn) : Prop where
  spawned : task.connections.spawned = trace.filterMap TaskEvent.accepted
  joined : ∀ i, trace.countP (TaskEvent.joins i) = if task.connections.joined i then 1 else 0
  accepting : task.pc ≠ .accepting ↔ .takeShutdown ∈ trace
  closed : trace.Pairwise fun earlier later => earlier = .takeShutdown → later.accepts = false
  listener : task.pc ≠ .accepting → task.pc ≠ .left →
    .dropListener ∈ trace ∧ task.listening = false
  drained : task.pc = .drained ∨ task.pc = .ended → task.connections.AllJoined
  completed : task.completed = true → task.pc = .ended

theorem taskInv_init (listenAddr : Str) : TaskInv [] (ServerTask.init listenAddr : ServerTask Conn)
    where
  spawned := rfl
  joined i := by simp [ServerTask.init, JoinSet.joined_empty]
  accepting := by simp [ServerTask.init]
  closed := List.Pairwise.nil
  listener hpc := absurd rfl hpc
  drained := by simp [ServerTask.init]
  completed := by simp [ServerTask.init]

variable {event : TaskEvent Conn}

theorem TaskInv.spawned_move (inv : TaskInv trace task) (hmove : TaskMove task event task') :
    task'.connections.spawned = (trace ++ [event]).filterMap TaskEvent.accepted := by
  rw [List.filterMap_append, ← inv.spawned]
  cases hmove with
  | accepts connection hpc => simp [TaskEvent.accepted]
  | connectionEnds i outcome connections hfinish =>
      simp [JoinSet.spawned_of_finish hfinish, TaskEvent.accepted]
  | joins i connections hjoining hjoin =>
      simp [JoinSet.spawned_of_joinNext hjoin, TaskEvent.accepted]
  | expires hpc => simp [TaskEvent.accepted]
  | _ => simp [TaskEvent.accepted]

theorem TaskInv.joined_move (inv : TaskInv trace task) (hmove : TaskMove task event task')
    (i : Nat) : (trace ++ [event]).countP (TaskEvent.joins i)
      = if task'.connections.joined i then 1 else 0 := by
  rw [List.countP_append, inv.joined i, List.countP_singleton]
  cases hmove with
  | accepts connection hpc => simp [TaskEvent.joins, JoinSet.joined_spawn]
  | connectionEnds j outcome connections hfinish =>
      simp [TaskEvent.joins, JoinSet.joined_of_finish hfinish]
  | joins j connections hjoining hjoin =>
      obtain ⟨hnot, hjoined⟩ := JoinSet.joined_of_joinNext hjoin
      by_cases hi : i = j
      · subst hi
        simp [TaskEvent.joins, hjoined, hnot]
      · have hother : (j == i) = false := by simpa using fun hji : j = i => hi hji.symm
        simp [TaskEvent.joins, hjoined, hi, hother]
  | expires hpc => simp [TaskEvent.joins, JoinSet.joined_abortAll]
  | _ => simp [TaskEvent.joins]

theorem TaskInv.accepting_move (inv : TaskInv trace task) (hmove : TaskMove task event task') :
    task'.pc ≠ .accepting ↔ .takeShutdown ∈ trace ++ [event] := by
  have hpast := inv.accepting
  cases hmove with
  | closes hpc => simpa [hpc] using hpast
  | expires hpc => simpa [hpc] using hpast
  | completes hpc => simpa [hpc] using hpast
  | drained hpc hjoined => rcases hpc with hpc | hpc <;> simpa [hpc] using hpast
  | leaves hpc hsignal => simp
  | _ => simpa using hpast

/-- **Once the signal was taken, nothing is accepted.** -/
theorem TaskInv.closed_move (inv : TaskInv trace task) (hmove : TaskMove task event task') :
    (trace ++ [event]).Pairwise
      fun earlier later => earlier = .takeShutdown → later.accepts = false := by
  have hlast : .takeShutdown ∈ trace → event.accepts = false := by
    intro htaken
    have hpc := inv.accepting.mpr htaken
    cases hmove with
    | accepts connection haccepting => exact absurd haccepting hpc
    | acceptFails error haccepting => exact absurd haccepting hpc
    | _ => rfl
  refine List.pairwise_append.mpr ⟨inv.closed, List.pairwise_singleton _ _, ?_⟩
  intro earlier hmem later hlater htake
  rw [List.mem_singleton.mp hlater]
  exact hlast (htake ▸ hmem)

theorem TaskInv.listener_move (inv : TaskInv trace task) (hmove : TaskMove task event task')
    (haccepting : task'.pc ≠ .accepting) (hleft : task'.pc ≠ .left) :
    .dropListener ∈ trace ++ [event] ∧ task'.listening = false := by
  have hpast : task.pc ≠ .accepting → task.pc ≠ .left →
      .dropListener ∈ trace ++ [event] ∧ task.listening = false := by
    intro ha hl
    obtain ⟨hmem, hlistening⟩ := inv.listener ha hl
    exact ⟨List.mem_append_left _ hmem, hlistening⟩
  cases hmove with
  | leaves hpc hsignal => exact absurd rfl hleft
  | closes hpc => exact ⟨by simp, rfl⟩
  | expires hpc => exact hpast (by simp [hpc]) (by simp [hpc])
  | drained hpc hjoined => rcases hpc with hpc | hpc <;> exact hpast (by simp [hpc]) (by simp [hpc])
  | completes hpc => exact hpast (by simp [hpc]) (by simp [hpc])
  | _ => exact hpast haccepting hleft

/-- Past the last join nothing is left to join, and nothing that could still end. -/
theorem TaskInv.drained_move (inv : TaskInv trace task) (hmove : TaskMove task event task')
    (hpc' : task'.pc = .drained ∨ task'.pc = .ended) : task'.connections.AllJoined := by
  cases hmove with
  | signalled => exact inv.drained hpc'
  | acceptFails error hpc => exact inv.drained hpc'
  | leaves hpc hsignal => exact absurd hpc' (by simp)
  | closes hpc => exact absurd hpc' (by simp)
  | expires hpc => exact absurd hpc' (by simp)
  | accepts connection hpc => exact absurd hpc' (by simp [hpc])
  | drained hpc hjoined => exact hjoined
  | completes hpc => exact inv.drained (Or.inl hpc)
  | joins i connections hjoining hjoin =>
      unfold ServerTask.joining at hjoining
      rcases hpc' with hpc | hpc
      · have hdrained : task.pc = .drained := hpc
        simp [hdrained] at hjoining
      · have hended : task.pc = .ended := hpc
        simp [hended] at hjoining
  | connectionEnds i outcome connections hfinish =>
      rw [JoinSet.finish_of_allJoined (inv.drained hpc')] at hfinish
      exact absurd hfinish (by simp)

theorem TaskInv.completed_move (inv : TaskInv trace task) (hmove : TaskMove task event task')
    (hcompleted : task'.completed = true) : task'.pc = .ended := by
  have hpast : task.completed = true → task.pc = .ended := inv.completed
  cases hmove with
  | leaves hpc hsignal => exact absurd (hpast hcompleted) (by simp [hpc])
  | closes hpc => exact absurd (hpast hcompleted) (by simp [hpc])
  | expires hpc => exact absurd (hpast hcompleted) (by simp [hpc])
  | drained hpc hjoined =>
      rcases hpc with hpc | hpc <;> exact absurd (hpast hcompleted) (by simp [hpc])
  | completes hpc => rfl
  | _ => exact hpast hcompleted

theorem TaskInv.step (inv : TaskInv trace task) (h : task.step event = some task') :
    TaskInv (trace ++ [event]) task' := by
  have hmove := taskMove_of_step h
  exact ⟨inv.spawned_move hmove, inv.joined_move hmove, inv.accepting_move hmove,
    inv.closed_move hmove, inv.listener_move hmove, inv.drained_move hmove,
    inv.completed_move hmove⟩

theorem taskInv_of_run {listenAddr : Str}
    (hrun : serverTaskMachine.run (.init listenAddr) trace = some task) : TaskInv trace task :=
  Machine.run_history (taskInv_init listenAddr) (fun _ _ _ _ inv h => inv.step h) hrun

/-- A completion that was sent stays sent. -/
theorem completed_of_step (h : task.step event = some task') (hcompleted : task.completed = true) :
    task'.completed = true := by
  cases taskMove_of_step h with
  | completes hpc => rfl
  | _ => exact hcompleted

/-! ### The servers of a process -/

/-- What an event of the process is for the task of this number. -/
def ProcessEvent.forTask (number : Nat) : ProcessEvent Conn → Option (TaskEvent Conn)
  | .stop i => if i = number then some .signal else none
  | .task i event => if i = number then some event else none
  | _ => none

/-- The part of a history that is the history of one server task. -/
def taskTrace (number : Nat) (events : List (ProcessEvent Conn)) : List (TaskEvent Conn) :=
  events.filterMap (ProcessEvent.forTask number)

inductive ProcessMove (p : Process Conn) (event : ProcessEvent Conn) : Process Conn → Prop
  | starts (server : ServerState) (fresh : List (ServerTask Conn))
      (hinit : ∀ task ∈ fresh, ∃ listenAddr, task = .init listenAddr)
      (hnone : ∀ i, event.forTask i = none) :
      ProcessMove p event { p with server := server, tasks := p.tasks ++ fresh }
  | steps (number : Nat) (stopping : Option Nat) (task task' : ServerTask Conn)
      (taskEvent : TaskEvent Conn) (htask : p.tasks[number]? = some task)
      (hstep : task.step taskEvent = some task')
      (hevent : ∀ i, event.forTask i = if number = i then some taskEvent else none) :
      ProcessMove p event { p with tasks := p.tasks.set number task', stopping := stopping }
  | returns (number : Option Nat) (completed : Bool)
      (hcompleted : completed = true → ∃ i task, number = some i ∧ p.tasks[i]? = some task ∧
        task.completed = true)
      (hnone : ∀ i, event.forTask i = none) :
      ProcessMove p event (p.stopReturns number completed)

variable {p p' : Process Conn} {events : List (ProcessEvent Conn)}

theorem stepTask_eq_some {number : Nat} {taskEvent : TaskEvent Conn}
    (h : p.stepTask number taskEvent = some p') :
    ∃ task task', p.tasks[number]? = some task ∧ task.step taskEvent = some task' ∧
      p' = { p with tasks := p.tasks.set number task' } := by
  unfold Process.stepTask at h
  cases htask : p.tasks[number]? with
  | none => simp [htask] at h
  | some task =>
      rw [htask] at h
      obtain ⟨task', hstep, hp'⟩ := Option.map_eq_some_iff.mp h
      exact ⟨task, task', rfl, hstep, hp'.symm⟩

theorem processMove_of_step {event : ProcessEvent Conn} (h : p.step event = some p') :
    ProcessMove p event p' := by
  cases event with
  | start w listenAddr =>
      obtain ⟨-, hp'⟩ := Option.ite_none_right_eq_some.mp h
      rw [← Option.some.inj hp']
      refine .starts _ _ (fun task htask => ?_) (fun _ => rfl)
      unfold Process.spawned at htask
      split at htask
      · exact absurd htask List.not_mem_nil
      · obtain ⟨bound, -, htask⟩ := Option.map_eq_some_iff.mp (Option.mem_toList.mp htask)
        exact ⟨bound, htask.symm⟩
  | stop number =>
      obtain ⟨-, hmap⟩ := Option.ite_none_right_eq_some.mp h
      obtain ⟨stepped, hstepped, hp'⟩ := Option.map_eq_some_iff.mp hmap
      obtain ⟨task, task', htask, hstep, rfl⟩ := stepTask_eq_some hstepped
      rw [← hp']
      exact .steps number (some number) task task' .signal htask hstep fun _ => rfl
  | stopNothing =>
      obtain ⟨-, hp'⟩ := Option.ite_none_right_eq_some.mp h
      rw [← Option.some.inj hp']
      exact .returns none false (by simp) fun _ => rfl
  | receiveCompletion =>
      simp only [Process.step] at h
      split at h
      · rename_i number hstopping
        split at h
        · rename_i task htask
          obtain ⟨hcompleted, hp'⟩ := Option.ite_none_right_eq_some.mp h
          rw [← Option.some.inj hp']
          exact .returns (some number) true (fun _ => ⟨number, task, rfl, htask, hcompleted⟩)
            fun _ => rfl
        · exact absurd h (by simp)
      · exact absurd h (by simp)
  | stopTimesOut =>
      simp only [Process.step] at h
      split at h
      · rename_i number hstopping
        rw [← Option.some.inj h]
        exact .returns (some number) false (by simp) fun _ => rfl
      · exact absurd h (by simp)
  | task number taskEvent =>
      have hstepped : p.stepTask number taskEvent = some p' := by
        cases taskEvent with
        | signal => exact absurd h (by simp [Process.step])
        | _ => exact h
      obtain ⟨task, task', htask, hstep, rfl⟩ := stepTask_eq_some hstepped
      exact .steps number p.stopping task task' taskEvent htask hstep fun _ => rfl

/-- Only a stop that was told of the completion says that the server has stopped. -/
theorem completed_of_stopped {completed : Bool} {state : ServerState}
    (h : (stopLocalServer completed state).1.message = "Local HTTP forward proxy stopped") :
    completed = true := by
  cases completed with
  | true => rfl
  | false =>
      unfold stopLocalServer at h
      cases hshutdown : state.shutdown with
      | none => simp only [hshutdown] at h; exact absurd h (by decide)
      | some _ => simp only [hshutdown] at h; exact absurd h (by decide)

/-- Each server task runs on its own part of the history, and a stop says that the server has
stopped only after its task has sent the completion. -/
structure ProcessInv (events : List (ProcessEvent Conn)) (p : Process Conn) : Prop where
  traced : ∀ i task, p.tasks[i]? = some task →
    ∃ listenAddr, serverTaskMachine.run (.init listenAddr) (taskTrace i events) = some task
  untouched : ∀ i, p.tasks.length ≤ i → taskTrace i events = []
  stopped : ∀ number status, (number, status) ∈ p.stops →
    status.message = "Local HTTP forward proxy stopped" →
      ∃ i task, number = some i ∧ p.tasks[i]? = some task ∧ task.completed = true

theorem taskTrace_snoc (i : Nat) (event : ProcessEvent Conn) :
    taskTrace i (events ++ [event]) = taskTrace i events ++ (event.forTask i).toList := by
  unfold taskTrace
  rw [List.filterMap_append]
  cases h : event.forTask i <;> simp [h]

theorem ProcessInv.step (inv : ProcessInv events p) {event : ProcessEvent Conn}
    (h : p.step event = some p') : ProcessInv (events ++ [event]) p' := by
  cases processMove_of_step h with
  | starts server fresh hinit hnone =>
      have htrace : ∀ i, taskTrace i (events ++ [event]) = taskTrace i events := by
        intro i
        rw [taskTrace_snoc, hnone i, Option.toList_none, List.append_nil]
      refine ⟨fun i task htask => ?_, fun i hi => ?_, fun number status hmem hmessage => ?_⟩
      · rw [htrace i]
        rcases Nat.lt_or_ge i p.tasks.length with hlt | hge
        · exact inv.traced i task (by rwa [List.getElem?_append_left hlt] at htask)
        · rw [List.getElem?_append_right hge] at htask
          obtain ⟨listenAddr, rfl⟩ := hinit task (List.mem_of_getElem? htask)
          exact ⟨listenAddr, by rw [inv.untouched i hge, Machine.run_nil]⟩
      · rw [htrace i]
        exact inv.untouched i (by simp at hi; omega)
      · obtain ⟨i, task, hnumber, htask, hcompleted⟩ := inv.stopped number status hmem hmessage
        obtain ⟨hi, -⟩ := List.getElem?_eq_some_iff.mp htask
        exact ⟨i, task, hnumber, by rwa [List.getElem?_append_left hi], hcompleted⟩
  | steps moved stopping task task' taskEvent htask hstep hevent =>
      obtain ⟨hmoved, -⟩ := List.getElem?_eq_some_iff.mp htask
      have hother : ∀ i, moved ≠ i → taskTrace i (events ++ [event]) = taskTrace i events := by
        intro i hne
        rw [taskTrace_snoc, hevent i, if_neg hne, Option.toList_none, List.append_nil]
      refine ⟨fun i current hcurrent => ?_, fun i hi => ?_, fun number status hmem hmessage => ?_⟩
      · by_cases hi : moved = i
        · subst hi
          rw [List.getElem?_set_self hmoved, Option.some.injEq] at hcurrent
          obtain ⟨listenAddr, hrun⟩ := inv.traced moved task htask
          refine ⟨listenAddr, ?_⟩
          rw [taskTrace_snoc, hevent moved, if_pos rfl, ← hcurrent]
          exact Machine.run_snoc hrun hstep
        · rw [List.getElem?_set_ne hi] at hcurrent
          rw [hother i hi]
          exact inv.traced i current hcurrent
      · have hlen : p.tasks.length ≤ i := by simpa using hi
        rw [hother i (by omega)]
        exact inv.untouched i hlen
      · obtain ⟨i, current, hnumber, hcurrent, hcompleted⟩ :=
          inv.stopped number status hmem hmessage
        by_cases hi : moved = i
        · subst hi
          have hsame : task = current := Option.some.inj (htask.symm.trans hcurrent)
          exact ⟨moved, task', hnumber, List.getElem?_set_self hmoved,
            completed_of_step hstep (hsame ▸ hcompleted)⟩
        · exact ⟨i, current, hnumber, by rwa [List.getElem?_set_ne hi], hcompleted⟩
  | returns number completed hcompleted hnone =>
      have htrace : ∀ i, taskTrace i (events ++ [event]) = taskTrace i events := by
        intro i
        rw [taskTrace_snoc, hnone i, Option.toList_none, List.append_nil]
      refine ⟨fun i task htask => ?_, fun i hi => ?_, fun n status hmem hmessage => ?_⟩
      · rw [htrace i]
        exact inv.traced i task htask
      · rw [htrace i]
        exact inv.untouched i hi
      · rcases List.mem_append.mp hmem with hold | hnew
        · exact inv.stopped n status hold hmessage
        · rw [List.mem_singleton, Prod.mk.injEq] at hnew
          obtain ⟨rfl, rfl⟩ := hnew
          exact hcompleted (completed_of_stopped hmessage)

theorem processInv_of_run (hrun : processMachine.run .init events = some p) :
    ProcessInv events p := by
  have hinit : ProcessInv [] (Process.init : Process Conn) :=
    ⟨by simp [Process.init], fun _ _ => rfl, by simp [Process.init]⟩
  exact Machine.run_history hinit (fun _ _ _ _ inv h => inv.step h) hrun

/-! ### Complete stops -/

/-- What the history of a server task promises: the connection tasks are those of the accepted
connections; nothing is accepted after the signal was taken; and when the completion is sent the
loop has been left, the listener closed, and every connection task joined once. -/
structure CompletesLast (trace : List (TaskEvent Conn)) (task : ServerTask Conn) : Prop where
  spawned : task.connections.spawned = trace.filterMap TaskEvent.accepted
  closed : trace.Pairwise fun earlier later => earlier = .takeShutdown → later.accepts = false
  completed : task.completed = true →
    .takeShutdown ∈ trace ∧ .dropListener ∈ trace ∧ task.listening = false ∧
      task.connections.AllJoined ∧
      ∀ i < task.connections.spawned.length, trace.countP (TaskEvent.joins i) = 1

theorem TaskInv.completesLast (inv : TaskInv trace task) : CompletesLast trace task := by
  refine ⟨inv.spawned, inv.closed, fun hcompleted => ?_⟩
  have hpc := inv.completed hcompleted
  have hjoined := inv.drained (Or.inr hpc)
  obtain ⟨hdropped, hlistening⟩ := inv.listener (by simp [hpc]) (by simp [hpc])
  refine ⟨inv.accepting.mp (by simp [hpc]), hdropped, hlistening, hjoined, fun i hi => ?_⟩
  have hlen : i < task.connections.tasks.length := by simpa [JoinSet.spawned] using hi
  rw [inv.joined i, if_pos (JoinSet.joined_of_allJoined hjoined hlen)]

/-- A socket of a server, at the address it listens on: the listener, or one of a connection. -/
inductive ServerSocket (Conn : Type) where
  | listener (listenAddr : Str)
  | connection (listenAddr : Str) (connection : Conn)

/-- The sockets that a server task and its connection tasks own. -/
def ServerTask.sockets (task : ServerTask Conn) : List (ServerSocket Conn) :=
  (if task.listening then [.listener task.listenAddr] else []) ++
    task.connections.left.map (.connection task.listenAddr)

theorem flatMap_eraseIdx {α β : Type} {f : α → List β} {l : List α} {i : Nat} {a : α}
    (ha : l[i]? = some a) (hnil : f a = []) : (l.eraseIdx i).flatMap f = l.flatMap f := by
  obtain ⟨hi, hget⟩ := List.getElem?_eq_some_iff.mp ha
  conv_rhs => rw [← List.take_append_drop i l, List.drop_eq_getElem_cons hi]
  rw [List.eraseIdx_eq_take_drop_succ, List.flatMap_append, List.flatMap_append,
    List.flatMap_cons, hget, hnil, List.nil_append]

/-- **A reported stop is a complete stop.**  In every interleaving of calls, connections and
timers each server task completes last, and after a stop that says so its listener is closed,
none of its connection tasks is left, and no start can be refused because of it: whatever the
sockets that the servers own make of a start, it is the same without this server. -/
theorem reported_stop_complete (hrun : processMachine.run .init events = some p) :
    (∀ i task, p.tasks[i]? = some task → CompletesLast (taskTrace i events) task) ∧
    ∀ number status, (number, status) ∈ p.stops →
      status.message = "Local HTTP forward proxy stopped" →
        ∃ i task, number = some i ∧ p.tasks[i]? = some task ∧ task.listening = false ∧
          task.connections.AllJoined ∧
          ∀ (world : List (ServerSocket Conn) → StartWorld) (listenAddr : Str),
            startLocalServer (world (p.tasks.flatMap ServerTask.sockets)) p.server listenAddr
              = startLocalServer (world ((p.tasks.eraseIdx i).flatMap ServerTask.sockets))
                  p.server listenAddr := by
  have inv := processInv_of_run hrun
  have htasks : ∀ i task, p.tasks[i]? = some task → CompletesLast (taskTrace i events) task := by
    intro i task htask
    obtain ⟨listenAddr, htrace⟩ := inv.traced i task htask
    exact (taskInv_of_run htrace).completesLast
  refine ⟨htasks, fun number status hmem hmessage => ?_⟩
  obtain ⟨i, task, hnumber, htask, hcompleted⟩ := inv.stopped number status hmem hmessage
  obtain ⟨-, -, hlistening, hjoined, -⟩ := (htasks i task htask).completed hcompleted
  have hnone : task.sockets = [] := by
    unfold ServerTask.sockets
    rw [hlistening, JoinSet.left_of_allJoined hjoined]
    rfl
  refine ⟨i, task, hnumber, htask, hlistening, hjoined, fun world listenAddr => ?_⟩
  rw [flatMap_eraseIdx htask hnone]

/-! ### A history -/

/-- Three connections: one panics and is joined in the loop, one is accepted although the stop
has already sent its signal and completes in the drain, and one outlives the grace.  The address
is free for the next start. -/
def sampleStops : List (ProcessEvent Nat) :=
  [.start (sampleStartWorld 0) "127.0.0.1:0", .task 0 (.accept (.ok 10)),
   .task 0 (.accept (.error "too many open files")), .task 0 (.accept (.ok 11)),
   .task 0 (.connectionEnds 0 .panicked), .task 0 (.join 0), .stop 0,
   .task 0 (.accept (.ok 12)), .task 0 .takeShutdown, .task 0 .dropListener,
   .task 0 (.connectionEnds 2 .completed), .task 0 (.join 2), .task 0 .graceExpires,
   .task 0 (.connectionEnds 1 .cancelled), .task 0 (.join 1), .task 0 .nothingLeft,
   .task 0 .complete, .receiveCompletion, .start (sampleStartWorld 0) "127.0.0.1:0"]

theorem reported_stop_complete_history :
    ∃ p, processMachine.run .init sampleStops = some p ∧
      p.stops.map (fun stop => stop.2.message)
        = (["Local HTTP forward proxy stopped"] : List Str) ∧
      p.tasks.map (fun task => task.connections.tasks.map SpawnedTask.phase)
        = [[.joined .panicked, .joined .cancelled, .joined .completed], []] ∧
      ∀ i task, p.tasks[i]? = some task → CompletesLast (taskTrace i sampleStops) task := by
  have hends : (processMachine.run .init sampleStops).map (fun p =>
      (p.stops.map (fun stop => stop.2.message),
        p.tasks.map fun task => task.connections.tasks.map SpawnedTask.phase))
      = some ((["Local HTTP forward proxy stopped"] : List Str),
          [[TaskPhase.joined .panicked, .joined .cancelled, .joined .completed], []]) := by decide
  obtain ⟨p, hrun, hp⟩ := Option.map_eq_some_iff.mp hends
  rw [Prod.mk.injEq] at hp
  exact ⟨p, hrun, hp.1, hp.2, (reported_stop_complete hrun).1⟩

end TlsPlus
