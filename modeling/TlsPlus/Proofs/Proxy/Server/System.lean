/-
No tunnel outlives a reported stop, and none is cut before.

A tunnel is a bridge that the task of a connection spawned.  What can be said of it
depends on two tasks above it: its connection's, which joins it, aborts it or is
dropped with it, and its server's, which lets the connection end by itself or aborts
it.  `TunnelInv` is what holds between a server's task, the task of one of its
connections and that connection's bridges; each of the three may step on its own, and
all steps keep it.
-/
import TlsPlus.Proxy.Server.System
import TlsPlus.Proofs.Proxy.Server.Connection
import TlsPlus.Proofs.Proxy.Server.Signal

namespace TlsPlus

variable {Conn Job : Type} {c c' : ConnectionState Job}

/-! ### A connection by itself -/

/-- `run` has seen the shutdown flag. -/
def RunPc.afterShutdown : RunPc → Bool
  | .abort => true
  | .joinAborted => true
  | .returned afterShutdown => afterShutdown
  | _ => false

theorem runStep_shutdownChanged {poll : Poll} (h : c.runStep poll = some c') :
    c'.shutdownChanged = c.shutdownChanged := by
  cases runMove_of_runStep h <;> rfl

/-- `run` leaves its loop for the flag only if that is set. -/
theorem afterShutdown_of_runStep {poll : Poll} (h : c.runStep poll = some c')
    (hbefore : c.pc.afterShutdown = false) (hnot : c.shutdownChanged = false) :
    c'.pc.afterShutdown = false := by
  unfold ConnectionState.runStep at h
  cases hpc : c.pc with
  | abort => simp [hpc, RunPc.afterShutdown] at hbefore
  | joinAborted => simp [hpc, RunPc.afterShutdown] at hbefore
  | pollShutdown => cases poll <;> grind [RunPc.afterShutdown]
  | _ => cases poll <;> grind [RunPc.afterShutdown, ConnectionState.spawnBridge]

/-- `run` itself cuts its bridges in one place only. -/
theorem cut_of_runStep {poll : Poll} (h : c.runStep poll = some c')
    (hbridges : ∀ j, c.bridges.cut j = false) :
    (∀ j, c'.bridges.cut j = false) ∨ c'.pc = .joinAborted := by
  cases runMove_of_runStep h with
  | spawns job rest pc hrecv hpc =>
      exact Or.inl fun j => (JoinSet.cut_spawn _ _ j).trans (hbridges j)
  | joins i bridges pc hjoin hfrom hto =>
      exact Or.inl fun j => (JoinSet.cut_of_joinNext hjoin j).trans (hbridges j)
  | aborts hfrom => exact Or.inr rfl
  | _ => exact Or.inl hbridges

theorem connectionInv_drop (inv : ConnectionInv c) (hlive : c.hasReturned = false) :
    ConnectionInv c.drop where
  spawned := (JoinSet.spawned_abortAll _).trans inv.spawned
  completed hfinished := by
    obtain ⟨queued, hq⟩ := inv.completed hfinished
    exact ⟨queued, hq.noted, hq.sent, hq.received⟩
  returned afterShutdown hpc := by
    have hreturned : c.pc = .returned afterShutdown := hpc
    unfold ConnectionState.hasReturned at hlive
    rw [hreturned] at hlive
    exact absurd hlive (by simp)

/-! ### A connection of a server -/

/-- What holds of a connection: `flag` is what its server's task has set, `outcome` how its task
has ended, and `cut` whether that was cut short. -/
structure TunnelInv (flag : Bool) (outcome : Option TaskOutcome) (cut : Bool)
    (c : ConnectionState Job) : Prop where
  base : ConnectionInv c
  told : c.pc.afterShutdown = true → c.shutdownChanged = true
  flagged : c.shutdownChanged = true → flag = true
  completed : outcome = some .completed → c.hasReturned = true
  dropped : ∀ o, outcome = some o → o ≠ .completed → c.bridges.NoneRunning
  aborted : cut = true → flag = true
  uncut : flag = false → outcome ≠ some .panicked → ∀ j, c.bridges.cut j = false

theorem tunnelInv_init : TunnelInv false none false (.init : ConnectionState Job) where
  base := connectionInv_init
  told := by simp [ConnectionState.init, RunPc.afterShutdown]
  flagged := by simp [ConnectionState.init]
  completed := by simp
  dropped := by simp
  aborted := id
  uncut _ _ _ := rfl

variable {flag cut : Bool} {outcome : Option TaskOutcome}

/-- The flag is set. -/
theorem TunnelInv.setFlag (inv : TunnelInv flag outcome cut c) :
    TunnelInv true outcome cut { c with shutdownChanged := true } where
  base := by
    have hstep : connectionMachine.step c .shutdown = some { c with shutdownChanged := true } := rfl
    exact connectionInv_step inv.base hstep
  told _ := rfl
  flagged _ := rfl
  completed := inv.completed
  dropped := inv.dropped
  aborted _ := rfl
  uncut hflag := absurd hflag (by simp)

/-- The task is asked to abort. -/
theorem TunnelInv.setCut (inv : TunnelInv true outcome cut c) (cut' : Bool) :
    TunnelInv true outcome cut' c :=
  { inv with aborted := fun _ => rfl }

/-- The task ends. -/
theorem TunnelInv.ends (inv : TunnelInv flag none cut c) {o : TaskOutcome}
    (hend : c.canEnd o = true) {cut' : Bool} (hcut : cut' = true → cut = true)
    (hcancelled : o = .cancelled → flag = true) :
    TunnelInv flag (some o) cut' (if o ≠ .completed then c.drop else c) := by
  unfold ConnectionState.canEnd at hend
  by_cases hdone : o = .completed
  · rw [if_neg (not_not.mpr hdone)]
    have hreturned : c.hasReturned = true := by
      by_contra hnot
      rw [if_neg hnot, hdone] at hend
      exact absurd hend (by decide)
    exact { inv with
      completed := fun _ => hreturned
      dropped := fun o' ho hne => absurd (Option.some.inj ho ▸ hdone) hne
      aborted := fun h => inv.aborted (hcut h)
      uncut := fun hflag _ => inv.uncut hflag (by simp) }
  · rw [if_pos hdone]
    have hlive : c.hasReturned = false := by
      by_contra hreturned
      rw [Bool.not_eq_false] at hreturned
      rw [if_pos hreturned] at hend
      exact hdone (of_decide_eq_true hend)
    rw [if_neg (by simp [hlive]), Bool.or_eq_true, decide_eq_true_eq, decide_eq_true_eq] at hend
    exact {
      base := connectionInv_drop inv.base hlive
      told := inv.told
      flagged := inv.flagged
      completed := fun ho => absurd (Option.some.inj ho) hdone
      dropped := fun _ _ _ => JoinSet.noneRunning_abortAll _
      aborted := fun h => inv.aborted (hcut h)
      uncut := fun hflag hcalm => by
        rcases hend with hpanicked | hcancel
        · exact absurd (congrArg some hpanicked) hcalm
        · exact absurd (hcancelled hcancel) (by simp [hflag]) }

/-- Something happens in the task, or to its bridges. -/
theorem TunnelInv.happens (inv : TunnelInv flag outcome cut c) {event : ConnectionEvent Job}
    (hevent : event ≠ .shutdown)
    (hlive : ∀ poll, event = .run poll → outcome = none)
    (h : connectionMachine.step c event = some c') : TunnelInv flag outcome cut c' := by
  have hbase := connectionInv_step inv.base h
  cases event with
  | shutdown => exact absurd rfl hevent
  | dropSenders =>
      rw [← Option.some.inj h] at hbase ⊢
      exact { inv with base := hbase }
  | queue job =>
      simp only [connectionMachine] at h
      split at h
      · split at h
        · rw [← Option.some.inj h] at hbase ⊢
          exact { inv with base := hbase }
        · exact absurd h (by simp)
      · exact absurd h (by simp)
  | bridgeEnds i o =>
      simp only [connectionMachine] at h
      split at h
      · rename_i bridges hfinish
        rw [← Option.some.inj h] at hbase ⊢
        refine { inv with
          base := hbase
          dropped := fun o' ho hne => (inv.dropped o' ho hne).finish hfinish
          uncut := fun hflag hcalm j => ?_ }
        have hwas := inv.uncut hflag hcalm j
        by_contra hcut
        rw [Bool.not_eq_false] at hcut
        exact absurd ((JoinSet.outcome_of_finish hfinish j).2.2 hcut) (by simp [hwas])
      · exact absurd h (by simp)
  | run poll =>
      have hnone := hlive poll rfl
      have hchanged := runStep_shutdownChanged h
      have htold : c'.pc.afterShutdown = true → c'.shutdownChanged = true := by
        intro hafter
        by_contra hnot
        rw [hchanged, Bool.not_eq_true] at hnot
        have hbefore : c.pc.afterShutdown = false := by
          by_contra hwas
          rw [Bool.not_eq_false] at hwas
          exact absurd (inv.told hwas) (by simp [hnot])
        exact absurd hafter (by simp [afterShutdown_of_runStep h hbefore hnot])
      have hflag : c'.shutdownChanged = true → flag = true := by
        rw [hchanged]
        exact inv.flagged
      refine ⟨hbase, htold, hflag, by simp [hnone], by simp [hnone], inv.aborted,
        fun hunset hcalm => ?_⟩
      rcases cut_of_runStep h (inv.uncut hunset hcalm) with hkept | hpc
      · exact hkept
      · exact absurd (hflag (htold (by rw [hpc]; rfl))) (by simp [hunset])

/-! ### A server and its connections -/

structure ServerInv (task : ServerTask Conn) (connections : Nat → ConnectionState Job) : Prop where
  left : task.pc ≠ .accepting → task.connectionShutdown = true
  tunnel : ∀ i, TunnelInv task.connectionShutdown (task.connections.outcome i)
    (task.connections.cut i) (connections i)

theorem serverInv_init (listenAddr : Str) :
    ServerInv (.init listenAddr : ServerTask Conn) fun _ => (.init : ConnectionState Job) :=
  ⟨fun hpc => absurd rfl hpc, fun _ => tunnelInv_init⟩

variable {task task' : ServerTask Conn} {connections : Nat → ConnectionState Job}

/-- **A step of the server's task keeps what holds of all its connections.** -/
theorem ServerInv.taskMove (inv : ServerInv task connections) {event : TaskEvent Conn}
    (hmove : TaskMove task event task')
    (hends : ∀ i o, event = .connectionEnds i o → (connections i).canEnd o = true) :
    ServerInv task' fun i => (connections i).afterTask i event := by
  cases hmove with
  | signalled => exact ⟨inv.left, inv.tunnel⟩
  | acceptFails error hpc => exact ⟨inv.left, inv.tunnel⟩
  | leaves hpc hsignal => exact ⟨fun _ => rfl, fun i => (inv.tunnel i).setFlag⟩
  | accepts connection hpc =>
      refine ⟨inv.left, fun i => ?_⟩
      have htunnel := inv.tunnel i
      rw [← JoinSet.outcome_spawn _ connection, ← JoinSet.cut_spawn _ connection] at htunnel
      exact htunnel
  | joins j joined hjoining hjoin =>
      refine ⟨inv.left, fun i => ?_⟩
      have htunnel := inv.tunnel i
      rw [← JoinSet.outcome_of_joinNext hjoin, ← JoinSet.cut_of_joinNext hjoin] at htunnel
      exact htunnel
  | closes hpc => exact ⟨fun _ => inv.left (by simp [hpc]), inv.tunnel⟩
  | drained hpc hjoined =>
      refine ⟨fun _ => inv.left ?_, inv.tunnel⟩
      rcases hpc with hpc | hpc <;> simp [hpc]
  | completes hpc => exact ⟨fun _ => inv.left (by simp [hpc]), inv.tunnel⟩
  | expires hpc =>
      have hflag := inv.left (by simp [hpc])
      refine ⟨fun _ => hflag, fun i => ?_⟩
      have htunnel := inv.tunnel i
      rw [hflag, ← JoinSet.outcome_abortAll] at htunnel
      show TunnelInv task.connectionShutdown _ _ _
      rw [hflag]
      exact htunnel.setCut _
  | connectionEnds j o ended hfinish =>
      refine ⟨inv.left, fun i => ?_⟩
      have htunnel := inv.tunnel i
      obtain ⟨hout, hnone, hcut⟩ := JoinSet.outcome_of_finish hfinish i
      show TunnelInv _ (ended.outcome i) _ (if j = i ∧ o ≠ .completed then _ else _)
      by_cases hij : i = j
      · subst hij
        rw [hout, if_pos rfl]
        rw [hnone rfl] at htunnel
        simp only [true_and]
        refine htunnel.ends (hends i o rfl) hcut fun hcancelled => ?_
        -- a task that ends cancelled had been asked to abort
        obtain ⟨t, ht, ⟨-, hnot⟩ | haborting, -⟩ := JoinSet.getElem?_of_finish hfinish
        · exact absurd hcancelled hnot
        · refine htunnel.aborted ?_
          simp [JoinSet.cut, ht, haborting, TaskPhase.isAborted]
      · rw [hout, if_neg hij, if_neg (fun h => hij h.1.symm)]
        exact { htunnel with aborted := fun h => htunnel.aborted (hcut h) }

/-- What happens to one connection keeps what holds of it, and does not touch the others. -/
theorem ServerInv.happens (inv : ServerInv task connections) {i : Nat}
    {event : ConnectionEvent Job} (hevent : event ≠ .shutdown)
    (hlive : ∀ poll, event = .run poll → task.connections.outcome i = none)
    (h : connectionMachine.step (connections i) event = some c') :
    ServerInv task fun j => if j = i then c' else connections j := by
  refine ⟨inv.left, fun j => ?_⟩
  by_cases hj : j = i
  · simp only [hj]
    exact (inv.tunnel i).happens hevent hlive h
  · simp only [if_neg hj]
    exact inv.tunnel j

/-! ### The system -/

theorem afterProcess_of_none {number i : Nat} {event : ProcessEvent Conn}
    (h : event.forTask number = none) : c.afterProcess number i event = c := by
  cases event with
  | task n te =>
      have hne : n ≠ number := fun heq => by simp [ProcessEvent.forTask, heq] at h
      exact if_neg hne
  | _ => rfl

theorem afterProcess_of_some {number i : Nat} {event : ProcessEvent Conn} {te : TaskEvent Conn}
    (h : event.forTask number = some te) : c.afterProcess number i event = c.afterTask i te := by
  cases event with
  | stop n =>
      obtain ⟨-, hte⟩ := Option.ite_none_right_eq_some.mp h
      rw [← Option.some.inj hte]
      rfl
  | task n te' =>
      obtain ⟨hn, hte⟩ := Option.ite_none_right_eq_some.mp h
      rw [← Option.some.inj hte]
      exact if_pos hn
  | _ => exact absurd h (by simp [ProcessEvent.forTask])

structure SystemInv (s : System Conn Job) : Prop where
  server : ∀ number task, s.process.tasks[number]? = some task →
    ServerInv task (s.connections number)
  unused : ∀ number, s.process.tasks.length ≤ number → ∀ i, s.connections number i = .init

theorem systemInv_init : SystemInv (System.init : System Conn Job) :=
  ⟨fun number task htask => absurd htask (by simp [System.init, Process.init]), fun _ _ _ => rfl⟩

variable {s s' : System Conn Job}

/-- A connection can end as an event says that the system allows. -/
theorem canEnd_of_allows {event : ProcessEvent Conn} (h : s.allows event = true) {number i : Nat}
    {o : TaskOutcome} (hevent : event.forTask number = some (.connectionEnds i o)) :
    (s.connections number i).canEnd o = true := by
  cases event with
  | task n te =>
      obtain ⟨rfl, hte⟩ := Option.ite_none_right_eq_some.mp hevent
      rw [Option.some.inj hte] at h
      exact h
  | stop n =>
      obtain ⟨-, hte⟩ := Option.ite_none_right_eq_some.mp hevent
      exact absurd (Option.some.inj hte) (by simp)
  | _ => exact absurd hevent (by simp [ProcessEvent.forTask])

theorem SystemInv.process (inv : SystemInv s) {event : ProcessEvent Conn}
    (hallows : s.allows event = true) {p' : Process Conn} (h : s.process.step event = some p') :
    SystemInv ⟨p', fun number i => (s.connections number i).afterProcess number i event⟩ := by
  cases processMove_of_step h with
  | starts server fresh hinit hnone =>
      simp only [afterProcess_of_none (hnone _)]
      refine ⟨fun number task htask => ?_, fun number hnumber i => ?_⟩
      · rcases Nat.lt_or_ge number s.process.tasks.length with hlt | hge
        · exact inv.server number task (by rwa [List.getElem?_append_left hlt] at htask)
        · rw [List.getElem?_append_right hge] at htask
          obtain ⟨listenAddr, rfl⟩ := hinit task (List.mem_of_getElem? htask)
          have hfresh : s.connections number = fun _ => .init := funext (inv.unused number hge)
          show ServerInv _ (s.connections number)
          rw [hfresh]
          exact serverInv_init listenAddr
      · exact inv.unused number (by simp at hnumber; omega) i
  | returns number completed hcompleted hnone =>
      simp only [afterProcess_of_none (hnone _)]
      exact ⟨inv.server, inv.unused⟩
  | steps moved stopping task task' te htask hstep hevent =>
      obtain ⟨hmoved, -⟩ := List.getElem?_eq_some_iff.mp htask
      refine ⟨fun number current hcurrent => ?_, fun number hnumber i => ?_⟩
      · by_cases hn : moved = number
        · subst hn
          rw [List.getElem?_set_self hmoved, Option.some.injEq] at hcurrent
          have hte : event.forTask moved = some te := by rw [hevent, if_pos rfl]
          simp only [afterProcess_of_some hte]
          rw [← hcurrent]
          refine (inv.server moved task htask).taskMove (taskMove_of_step hstep) fun i o ho => ?_
          exact canEnd_of_allows hallows (ho ▸ hte)
        · rw [List.getElem?_set_ne hn] at hcurrent
          have hte : event.forTask number = none := by rw [hevent, if_neg hn]
          simp only [afterProcess_of_none hte]
          exact inv.server number current hcurrent
      · have hlen : s.process.tasks.length ≤ number := by simpa using hnumber
        have hte : event.forTask number = none := by rw [hevent, if_neg (by omega)]
        simp only [afterProcess_of_none hte]
        exact inv.unused number hlen i

theorem SystemInv.connection (inv : SystemInv s) {number i : Nat} {event : ConnectionEvent Job}
    (henabled : s.enabled number i event = true)
    (h : connectionMachine.step (s.connections number i) event = some c') :
    SystemInv (s.setConnection number i c') := by
  have hevent : event ≠ .shutdown := by
    rintro rfl
    exact absurd henabled (by simp [System.enabled])
  have haccepted : (s.connectionTask number i).isSome = true := by
    cases event with
    | shutdown => exact absurd rfl hevent
    | bridgeEnds j o => exact henabled
    | dropSenders => exact henabled
    | queue job => exact Option.isSome_of_any henabled
    | run poll => exact Option.isSome_of_any henabled
  refine ⟨fun n task htask => ?_, fun n hn j => ?_⟩
  · by_cases hnumber : n = number
    · subst hnumber
      have hset : (s.setConnection n i c').connections n
          = fun j => if j = i then c' else s.connections n j := by
        funext j
        simp [System.setConnection]
      rw [hset]
      refine (inv.server n task htask).happens hevent (fun poll hpoll => ?_) h
      rw [hpoll] at henabled
      have hlive : ((task.connections.tasks[i]?).any fun t => t.phase.outcome.isNone) = true := by
        have htask' : s.process.tasks[n]? = some task := htask
        unfold System.enabled System.connectionTask at henabled
        rw [htask', Option.bind_some] at henabled
        exact henabled
      unfold JoinSet.outcome
      cases ht : task.connections.tasks[i]? with
      | none => rfl
      | some t => simpa [ht] using hlive
    · have hset : (s.setConnection number i c').connections n = s.connections n := by
        funext j
        exact if_neg fun hboth => hnumber hboth.1
      rw [hset]
      exact inv.server n task htask
  · have hne : n ≠ number := by
      rintro rfl
      have hnone : s.process.tasks[n]? = none := List.getElem?_eq_none hn
      unfold System.connectionTask at haccepted
      rw [hnone] at haccepted
      exact absurd haccepted (by simp)
    show (if n = number ∧ j = i then c' else s.connections n j) = .init
    rw [if_neg fun hboth => hne hboth.1]
    exact inv.unused n hn j

/-- **Every step of the system keeps what holds of its tunnels.** -/
theorem SystemInv.step (inv : SystemInv s) {event : SystemEvent Conn Job}
    (h : systemMachine.step s event = some s') : SystemInv s' := by
  cases event with
  | process event =>
      obtain ⟨hallows, hmap⟩ := Option.ite_none_right_eq_some.mp h
      obtain ⟨p', hstep, rfl⟩ := Option.map_eq_some_iff.mp hmap
      exact inv.process hallows hstep
  | connection number i event =>
      obtain ⟨henabled, hmap⟩ := Option.ite_none_right_eq_some.mp h
      obtain ⟨c', hstep, rfl⟩ := Option.map_eq_some_iff.mp hmap
      exact inv.connection henabled hstep

/-- The process runs as it does by itself. -/
def SystemEvent.forProcess : SystemEvent Conn Job → Option (ProcessEvent Conn)
  | .process event => some event
  | .connection _ _ _ => none

variable {events : List (SystemEvent Conn Job)}

theorem process_of_run (hrun : systemMachine.run .init events = some s) :
    processMachine.run .init (events.filterMap SystemEvent.forProcess) = some s.process := by
  have hstep : ∀ (u : System Conn Job) (e : SystemEvent Conn Job) (u' : System Conn Job),
      systemMachine.step u e = some u' →
        (∃ event, e.forProcess = some event ∧
          processMachine.step u.process event = some u'.process) ∨
        (e.forProcess = none ∧ u'.process = u.process) := by
    intro u e u' h
    cases e with
    | process event =>
        obtain ⟨-, hmap⟩ := Option.ite_none_right_eq_some.mp h
        obtain ⟨p', hstep, rfl⟩ := Option.map_eq_some_iff.mp hmap
        exact Or.inl ⟨event, rfl, hstep⟩
    | connection number i event =>
        obtain ⟨-, hmap⟩ := Option.ite_none_right_eq_some.mp h
        obtain ⟨c', -, rfl⟩ := Option.map_eq_some_iff.mp hmap
        exact Or.inr ⟨rfl, rfl⟩
  exact Machine.run_component hstep hrun

theorem systemInv_of_run (hrun : systemMachine.run .init events = some s) : SystemInv s :=
  Machine.run_invariant (fun _ _ _ inv h => inv.step h) systemInv_init hrun

/-! ### The tunnels of a server -/

/-- **No tunnel outlives a reported stop.**  In every interleaving of calls, servers, connections
and bridges, when a stop has said that the server stopped, the task of each of its connections has
been joined; one that ended by itself has joined all its bridges, and of one that was dropped no
bridge is left that has not been aborted. -/
theorem stop_ends_tunnels (hrun : systemMachine.run .init events = some s) {number : Option Nat}
    {status : ServerStatus} (hstop : (number, status) ∈ s.process.stops)
    (hmessage : status.message = "Local HTTP forward proxy stopped") :
    ∃ n task, number = some n ∧ s.process.tasks[n]? = some task ∧
      ∀ i t, task.connections.tasks[i]? = some t → ∃ outcome, t.phase = .joined outcome ∧
        (outcome = .completed → (s.connections n i).bridges.AllJoined) ∧
        (outcome ≠ .completed → (s.connections n i).bridges.NoneRunning) := by
  have pinv := processInv_of_run (process_of_run hrun)
  obtain ⟨n, task, hnumber, htask, hcompleted⟩ := pinv.stopped number status hstop hmessage
  obtain ⟨listenAddr, htrace⟩ := pinv.traced n task htask
  obtain ⟨-, -, -, hjoined, -⟩ := (taskInv_of_run htrace).completesLast.completed hcompleted
  refine ⟨n, task, hnumber, htask, fun i t ht => ?_⟩
  obtain ⟨outcome, hphase⟩ := hjoined t (List.mem_of_getElem? ht)
  have htunnel := ((systemInv_of_run hrun).server n task htask).tunnel i
  have hout : task.connections.outcome i = some outcome := by
    simp [JoinSet.outcome, ht, hphase, TaskPhase.outcome]
  refine ⟨outcome, hphase, fun hdone => ?_, fun hnot => htunnel.dropped outcome hout hnot⟩
  have hreturned := htunnel.completed (hdone ▸ hout)
  unfold ConnectionState.hasReturned at hreturned
  split at hreturned
  · rename_i afterShutdown hpc
    exact (htunnel.base.returned afterShutdown hpc).1
  · exact absurd hreturned (by simp)

/-- **No tunnel is cut while its server serves.**  In every interleaving, a bridge that was aborted
is one of a server that a stop had signalled, or of a connection whose own task panicked. -/
theorem tunnels_cut_by_stop_only (hrun : systemMachine.run .init events = some s)
    {number i j : Nat} {task : ServerTask Conn} (htask : s.process.tasks[number]? = some task)
    (hcut : (s.connections number i).bridges.cut j = true) :
    .process (.stop number) ∈ events ∨ task.connections.outcome i = some .panicked := by
  have prun := process_of_run hrun
  obtain ⟨listenAddr, htrace⟩ := (processInv_of_run prun).traced number task htask
  have htunnel := ((systemInv_of_run hrun).server number task htask).tunnel i
  by_cases hflag : task.connectionShutdown = true
  · have hstop := (signalled_iff prun htask).mp ((signalInv_of_run htrace).flag hflag)
    obtain ⟨event, hmem, hevent⟩ := List.mem_filterMap.mp hstop
    cases event with
    | process event =>
        rw [Option.some.inj hevent] at hmem
        exact Or.inl hmem
    | connection n k event => exact absurd hevent (by simp [SystemEvent.forProcess])
  · refine Or.inr (not_not.mp fun hcalm => ?_)
    have hwhole := htunnel.uncut (Bool.eq_false_iff.mpr hflag) hcalm j
    exact absurd hcut (by simp [hwhole])

/-! ### A history -/

/-- Two connections with a tunnel each.  One sees the flag, aborts its bridge and returns; the other
does not get to it, and is dropped when the grace has expired. -/
def sampleTunnels : List (SystemEvent Nat Nat) :=
  [.process (.start (sampleStartWorld 0) "127.0.0.1:0"),
   .process (.task 0 (.accept (.ok 10))), .process (.task 0 (.accept (.ok 11))),
   .connection 0 0 (.run .ready), .connection 0 0 (.run .pending), .connection 0 0 (.queue 7),
   .connection 0 0 (.run .ready), .connection 0 1 (.run .ready), .connection 0 1 (.run .pending),
   .connection 0 1 (.queue 8), .connection 0 1 (.run .ready), .process (.stop 0),
   .process (.task 0 .takeShutdown), .process (.task 0 .dropListener),
   .connection 0 0 (.run .ready), .connection 0 0 (.run .ready), .connection 0 0 (.run .ready),
   .connection 0 0 (.bridgeEnds 0 .cancelled), .connection 0 0 (.run (.joins 0)),
   .connection 0 0 (.run .ready), .process (.task 0 (.connectionEnds 0 .completed)),
   .process (.task 0 (.join 0)), .process (.task 0 .graceExpires),
   .process (.task 0 (.connectionEnds 1 .cancelled)), .process (.task 0 (.join 1)),
   .process (.task 0 .nothingLeft), .process (.task 0 .complete), .process .receiveCompletion]

theorem sampleTunnels_run : ∃ s status task, systemMachine.run .init sampleTunnels = some s ∧
    (some 0, status) ∈ s.process.stops ∧ status.message = "Local HTTP forward proxy stopped" ∧
    s.process.tasks[0]? = some task ∧
    task.connections.tasks = [⟨10, .joined .completed⟩, ⟨11, .joined .cancelled⟩] ∧
    (s.connections 0 0).bridges.cut 0 = true := by
  have hends : (systemMachine.run .init sampleTunnels).map (fun s =>
      (s.process.stops.map fun stop => (stop.1, stop.2.message),
        s.process.tasks.map fun task => task.connections.tasks, (s.connections 0 0).bridges.cut 0))
      = some ([(some 0, ("Local HTTP forward proxy stopped" : Str))],
          [[⟨10, .joined .completed⟩, ⟨11, .joined .cancelled⟩]], true) := by decide
  obtain ⟨s, hrun, hs⟩ := Option.map_eq_some_iff.mp hends
  rw [Prod.mk.injEq, Prod.mk.injEq] at hs
  obtain ⟨⟨number, status⟩, hstops, hstop⟩ := List.map_eq_singleton_iff.mp hs.1
  obtain ⟨task, htasks, htask⟩ := List.map_eq_singleton_iff.mp hs.2.1
  rw [Prod.mk.injEq] at hstop
  obtain ⟨rfl, hmessage⟩ := hstop
  exact ⟨s, status, task, hrun, by simp [hstops], hmessage, by simp [htasks], htask, hs.2.2⟩

theorem stop_ends_tunnels_sample :
    ∃ s, systemMachine.run .init sampleTunnels = some s ∧
      (s.connections 0 0).bridges.AllJoined ∧ (s.connections 0 1).bridges.NoneRunning := by
  obtain ⟨s, status, task, hrun, hstop, hmessage, htask, htasks, -⟩ := sampleTunnels_run
  obtain ⟨n, task', hn, htask', hall⟩ := stop_ends_tunnels hrun hstop hmessage
  obtain rfl := Option.some.inj hn
  obtain rfl := Option.some.inj (htask.symm.trans htask')
  obtain ⟨outcome, houtcome, hdone, -⟩ := hall 0 ⟨10, .joined .completed⟩ (by rw [htasks]; rfl)
  obtain ⟨outcome', houtcome', -, hdropped⟩ :=
    hall 1 ⟨11, .joined .cancelled⟩ (by rw [htasks]; rfl)
  exact ⟨s, hrun, hdone (TaskPhase.joined.inj houtcome).symm,
    hdropped (by rw [← TaskPhase.joined.inj houtcome']; decide)⟩

theorem tunnels_cut_by_stop_only_sample :
    ∃ s task, systemMachine.run .init sampleTunnels = some s ∧
      s.process.tasks[0]? = some task ∧
      (.process (.stop 0) ∈ sampleTunnels ∨ task.connections.outcome 0 = some .panicked) := by
  obtain ⟨s, status, task, hrun, -, -, htask, -, hcut⟩ := sampleTunnels_run
  exact ⟨s, task, hrun, htask, tunnels_cut_by_stop_only hrun htask hcut⟩

end TlsPlus
