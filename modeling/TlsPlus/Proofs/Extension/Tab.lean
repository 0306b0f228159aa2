/-
The tab's buttons come back.

A click takes a button away until the thread it has started is done.  Every thread has
an errand: to bring the status, a text, a fingerprint or a response.  Moving on, it
keeps its errand and comes one step nearer its end, so `Tab.count` and `Tab.steps`, two
prices for the same things under way, carry all that is said here of runs: how many
errands of a kind there are, and how long it takes until there are none.  Threads at
calls that do not return are set aside (`Tab.besides`), and the rest settles.
-/
import TlsPlus.Extension.Tab
import TlsPlus.Proofs.Extension.CoreCalls

namespace TlsPlus

variable {paths : LoaderPaths} {w : CallWorld} {s s' : Tab}

/-! ### Errands -/

/-- What a thread is to bring. -/
inductive Errand where
  | status
  | output
  | fingerprint
  | response
deriving DecidableEq

def Update.errand : Update → Errand
  | .status .. => .status
  | .outputAndRefresh _ => .status
  | .output _ => .output
  | .fingerprint _ => .fingerprint
  | .response _ => .response

def Worker.errand : Worker → Errand
  | .refreshing => .status
  | .refreshingServer _ => .status
  | .refreshed .. => .status
  | .starting _ => .status
  | .started _ => .status
  | .stopping => .status
  | .describing => .status
  | .loadingProfile _ => .output
  | .computingJa4 _ => .fingerprint
  | .computingJa3 _ => .fingerprint
  | .requesting .. => .response
  | .posting update => update.errand

/-- The steps until an update has run, those of the refresh it starts included. -/
def Update.steps : Update → Nat
  | .outputAndRefresh _ => 6
  | _ => 1

def Worker.steps : Worker → Nat
  | .refreshing => 5
  | .refreshingServer _ => 4
  | .refreshed .. => 3
  | .starting _ => 9
  | .started _ => 8
  | .stopping => 8
  | .describing => 8
  | .loadingProfile _ => 3
  | .computingJa4 _ => 3
  | .computingJa3 _ => 3
  | .requesting .. => 3
  | .posting update => update.steps + 1

@[simp] theorem errand_advance (worker : Worker) (shared : Shared) :
    (worker.advance paths w shared).1.errand = worker.errand := by
  cases worker <;> rfl

theorem steps_advance (paths : LoaderPaths) (w : CallWorld) {worker : Worker}
    (h : ∀ update, worker ≠ .posting update) (shared : Shared) :
    (worker.advance paths w shared).1.steps + 1 = worker.steps := by
  cases worker with
  | posting update => exact absurd rfl (h update)
  | _ => rfl

namespace Tab

/-- How many errands of a kind are under way. -/
def count (k : Errand) (s : Tab) : Nat :=
  s.dispatch.weight (fun worker => if worker.errand = k then 1 else 0)
    (fun update => if update.errand = k then 1 else 0)

/-- The steps until nothing is under way. -/
def steps (s : Tab) : Nat := s.dispatch.weight Worker.steps Update.steps

theorem count_of_spawn {block : Worker} (h : s'.dispatch = s.dispatch.spawn block) (k : Errand) :
    s'.count k = s.count k + if block.errand = k then 1 else 0 := by
  unfold count
  rw [h]
  exact Dispatch.weight_spawn _ _ s.dispatch block

theorem count_runBackground (s : Tab) (block : Worker) (k : Errand) :
    (s.runBackground block).count k = s.count k + if block.errand = k then 1 else 0 :=
  count_of_spawn rfl k

theorem count_of_idle (h : s.dispatch.Idle) (k : Errand) : s.count k = 0 :=
  Dispatch.weight_of_idle _ _ h

end Tab

/-! ### What a thread's step can do -/

inductive WorkerMove (paths : LoaderPaths) (w : CallWorld) (s : Tab) (thread : Nat) : Tab → Prop
  | posts (update : Update) (h : s.dispatch.worker? thread = some (.posting update)) :
      WorkerMove paths w s thread { s with dispatch := s.dispatch.post thread update }
  | advances (worker : Worker) (h : s.dispatch.worker? thread = some worker)
      (hnot : ∀ update, worker ≠ .posting update) :
      WorkerMove paths w s thread { s with
        shared := (worker.advance paths w s.shared).2
        dispatch := s.dispatch.advance thread (worker.advance paths w s.shared).1 }

theorem workerMove_of_step {thread : Nat} (h : s.workerStep paths thread w = some s') :
    WorkerMove paths w s thread s' := by
  unfold Tab.workerStep at h
  split at h
  · exact absurd h (by simp)
  · rename_i update hworker
    rw [← Option.some.inj h]
    exact .posts update hworker
  · rename_i worker hnot hworker
    rw [← Option.some.inj h]
    exact .advances worker hworker fun update hposting => hnot update hposting

/-- A thread keeps its errand until it has queued its update. -/
theorem count_workerStep {thread : Nat} (h : s.workerStep paths thread w = some s')
    (k : Errand) : s'.count k = s.count k := by
  cases workerMove_of_step h with
  | posts update hworker =>
      have hweight := Dispatch.weight_post (fun worker => if worker.errand = k then 1 else 0)
        (fun update => if update.errand = k then 1 else 0) hworker update
      exact Nat.add_right_cancel hweight
  | advances worker hworker hnot =>
      have hweight := Dispatch.weight_advance (fun worker => if worker.errand = k then 1 else 0)
        (fun update => if update.errand = k then 1 else 0) hworker
        (worker.advance paths w s.shared).1
      simp only [errand_advance] at hweight
      exact Nat.add_right_cancel hweight

theorem steps_workerStep {thread : Nat} (h : s.workerStep paths thread w = some s') :
    s'.steps + 1 = s.steps := by
  cases workerMove_of_step h with
  | posts update hworker =>
      have hweight := Dispatch.weight_post Worker.steps Update.steps hworker update
      have hsteps : (Worker.posting update).steps = update.steps + 1 := rfl
      unfold Tab.steps
      simp only
      omega
  | advances worker hworker hnot =>
      have hweight := Dispatch.weight_advance Worker.steps Update.steps hworker
        (worker.advance paths w s.shared).1
      have hsteps := steps_advance paths w hnot s.shared
      unfold Tab.steps
      simp only
      omega

/-- An update is taken off the queue, and the refresh that it asks for is started. -/
theorem count_update {update : Update} {d : Dispatch Worker Update}
    (h : s.dispatch.take = some (update, d)) (k : Errand) :
    { s with dispatch := d }.count k + (if update.errand = k then 1 else 0) = s.count k :=
  Dispatch.weight_take _ _ h

theorem steps_update (paths : LoaderPaths) (h : s.step paths .update = some s') :
    s'.steps + 1 = s.steps := by
  obtain ⟨⟨update, d⟩, htake, rfl⟩ := Option.map_eq_some_iff.mp h
  have hweight := Dispatch.weight_take Worker.steps Update.steps htake
  unfold Tab.steps
  cases update with
  | status coreOk coreStatus running listenAddr =>
      have hdispatch : (Tab.applyUpdate { s with dispatch := d }
          (.status coreOk coreStatus running listenAddr)).dispatch = d := by
        cases coreOk <;> cases running <;> rfl
      rw [hdispatch]
      exact hweight
  | outputAndRefresh message =>
      have hspawn := Dispatch.weight_spawn Worker.steps Update.steps d .refreshing
      have hsteps : (Update.outputAndRefresh message).steps = Worker.refreshing.steps + 1 := rfl
      show (d.spawn .refreshing).weight _ _ + 1 = _
      omega
  | output message => exact hweight
  | fingerprint message => exact hweight
  | response response => exact hweight

/-! ### The core -/

theorem sound_advance {shared : Shared} (h : shared.core.Sound) (worker : Worker) :
    (worker.advance paths w shared).2.core.Sound := by
  have hcomputing : ∀ loader : NativeLoader,
      (shared.core.loader.loaded = true → loader.loaded = true) →
        CoreState.Sound ⟨loader, shared.core.server⟩ := fun loader hloader =>
    ⟨h.address, fun hrunning => hloader (h.loaded hrunning)⟩
  cases worker with
  | refreshing => exact sound_shortStatus h
  | refreshingServer coreStatus => exact sound_serverStatus h
  | refreshed coreStatus status => exact h
  | starting addr => exact sound_startServer h addr
  | started result => exact h
  | stopping => exact sound_stopServer h
  | describing => exact sound_describeCore h
  | loadingProfile name => exact sound_profileInfo h name
  | computingJa4 hex => exact hcomputing _ (loaded_withNative paths w.load _ _)
  | computingJa3 hex => exact hcomputing _ (loaded_withNative paths w.load _ _)
  | requesting method url profile => exact sound_sendProxyRequest h method url [] [] profile 30
  | posting update => exact h

theorem sound_run (use : CoreUse) {core : CoreState} (h : core.Sound) :
    (use.run paths w core).Sound := by
  cases use with
  | start listenAddr => exact sound_startServer h listenAddr
  | stop => exact sound_stopServer h
  | query => exact sound_serverStatus h

/-! ### Buttons and errands -/

/-- A fingerprint is under way exactly while the buttons that compute are off, and a response while
the one that sends is; and then only one. -/
structure Tab.Steady (s : Tab) : Prop where
  core : s.shared.core.Sound
  computing : s.count .fingerprint = if s.buttons.computeJa4 then 0 else 1
  together : s.buttons.computeJa3 = s.buttons.computeJa4
  sending : s.count .response = if s.buttons.sendRequest then 0 else 1

namespace Tab.Steady

theorem init (p : Preferences) (loader : NativeLoader) (output : Str) :
    (Tab.init p loader output).Steady where
  core := ⟨fun h => absurd h Bool.false_ne_true, fun h => absurd h Bool.false_ne_true⟩
  computing := rfl
  together := rfl
  sending := rfl

/-- A thread with another errand is started. -/
theorem spawn (inv : s.Steady) {block : Worker} (hcore : s'.shared.core.Sound)
    (hdispatch : s'.dispatch = s.dispatch.spawn block)
    (hja4 : s'.buttons.computeJa4 = s.buttons.computeJa4)
    (hja3 : s'.buttons.computeJa3 = s.buttons.computeJa3)
    (hsend : s'.buttons.sendRequest = s.buttons.sendRequest)
    (hfingerprint : block.errand ≠ .fingerprint) (hresponse : block.errand ≠ .response) :
    s'.Steady where
  core := hcore
  computing := by
    rw [count_of_spawn hdispatch, if_neg hfingerprint, hja4, inv.computing, Nat.add_zero]
  together := by rw [hja3, hja4, inv.together]
  sending := by rw [count_of_spawn hdispatch, if_neg hresponse, hsend, inv.sending, Nat.add_zero]

/-- A thread that computes a fingerprint is started. -/
theorem computes (inv : s.Steady) {block : Worker} (hblock : block.errand = .fingerprint)
    (henabled : s.buttons.computeJa4 = true) (message : Str) :
    (((s.toggleJa4Buttons false).setOutput message).runBackground block).Steady where
  core := inv.core
  computing := by
    have hidle := inv.computing
    rw [if_pos henabled] at hidle
    rw [count_runBackground, if_pos hblock]
    show s.count .fingerprint + 1 = 1
    rw [hidle]
  together := rfl
  sending := by
    have hother : block.errand ≠ .response := by
      rw [hblock]
      decide
    rw [count_runBackground, if_neg hother]
    exact inv.sending

theorem worker (inv : s.Steady) {thread : Nat} (h : s.workerStep paths thread w = some s') :
    s'.Steady := by
  have hcount := count_workerStep h
  cases workerMove_of_step h with
  | posts update hworker =>
      exact ⟨inv.core, (hcount _).trans inv.computing, inv.together, (hcount _).trans inv.sending⟩
  | advances worker hworker hnot =>
      exact ⟨sound_advance inv.core worker, (hcount _).trans inv.computing, inv.together,
        (hcount _).trans inv.sending⟩

theorem update (inv : s.Steady) (h : s.step paths .update = some s') : s'.Steady := by
  obtain ⟨⟨update, d⟩, htake, rfl⟩ := Option.map_eq_some_iff.mp h
  have hfingerprint := (count_update htake .fingerprint).trans inv.computing
  have hresponse := (count_update htake .response).trans inv.sending
  cases update with
  | status coreOk coreStatus running listenAddr =>
      cases coreOk <;> cases running <;>
        exact ⟨inv.core, hfingerprint, inv.together, hresponse⟩
  | outputAndRefresh message =>
      have htaken : { s with dispatch := d }.Steady :=
        ⟨inv.core, hfingerprint, inv.together, hresponse⟩
      exact htaken.spawn inv.core rfl rfl rfl rfl (by decide) (by decide)
  | output message => exact ⟨inv.core, hfingerprint, inv.together, hresponse⟩
  | fingerprint message =>
      refine ⟨inv.core, ?_, rfl, hresponse⟩
      show { s with dispatch := d }.count .fingerprint = 0
      have htaken : { s with dispatch := d }.count .fingerprint + 1
          = if s.buttons.computeJa4 then 0 else 1 := hfingerprint
      split at htaken <;> omega
  | response response =>
      refine ⟨inv.core, hfingerprint, inv.together, ?_⟩
      show { s with dispatch := d }.count .response = 0
      have htaken : { s with dispatch := d }.count .response + 1
          = if s.buttons.sendRequest then 0 else 1 := hresponse
      split at htaken <;> omega

theorem step (inv : s.Steady) {event : TabEvent} (h : s.step paths event = some s') :
    s'.Steady := by
  cases event with
  | worker thread w => exact inv.worker h
  | update => exact inv.update h
  | addNotify =>
      rw [← Option.some.inj h]
      exact inv.spawn inv.core rfl rfl rfl rfl (by decide) (by decide)
  | removeNotify =>
      rw [← Option.some.inj h]
      exact ⟨inv.core, inv.computing, inv.together, inv.sending⟩
  | tick =>
      obtain ⟨-, hs'⟩ := Option.ite_none_right_eq_some.mp h
      rw [← Option.some.inj hs']
      exact inv.spawn inv.core rfl rfl rfl rfl (by decide) (by decide)
  | refreshStatus =>
      rw [← Option.some.inj h]
      exact inv.spawn inv.core rfl rfl rfl rfl (by decide) (by decide)
  | refreshCore =>
      rw [← Option.some.inj h]
      exact inv.spawn inv.core rfl rfl rfl rfl (by decide) (by decide)
  | startServer text =>
      obtain ⟨-, hs'⟩ := Option.ite_none_right_eq_some.mp h
      rw [← Option.some.inj hs']
      exact inv.spawn inv.core rfl rfl rfl rfl (by simp [Worker.errand]) (by simp [Worker.errand])
  | stopServer =>
      obtain ⟨-, hs'⟩ := Option.ite_none_right_eq_some.mp h
      rw [← Option.some.inj hs']
      exact inv.spawn inv.core rfl rfl rfl rfl (by decide) (by decide)
  | showProfileDetails selectedItem =>
      rw [← Option.some.inj h]
      cases selectedItem with
      | none => exact inv
      | some name =>
          exact inv.spawn inv.core rfl rfl rfl rfl (by simp [Worker.errand])
            (by simp [Worker.errand])
  | computeJa4 hex =>
      obtain ⟨henabled, hs'⟩ := Option.ite_none_right_eq_some.mp h
      rw [← Option.some.inj hs']
      exact inv.computes rfl henabled _
  | computeJa3 hex =>
      obtain ⟨henabled, hs'⟩ := Option.ite_none_right_eq_some.mp h
      rw [← Option.some.inj hs']
      exact inv.computes rfl (inv.together ▸ henabled) _
  | clear w =>
      rw [← Option.some.inj h]
      exact ⟨sound_describeCore inv.core, inv.computing, inv.together, inv.sending⟩
  | sendProxyRequest method text profile =>
      obtain ⟨henabled, hs'⟩ := Option.ite_none_right_eq_some.mp h
      rw [← Option.some.inj hs']
      have hidle := inv.sending
      rw [if_pos henabled] at hidle
      refine ⟨inv.core, ?_, inv.together, ?_⟩
      · exact (count_runBackground _ _ .fingerprint).trans inv.computing
      · refine (count_runBackground _ _ .response).trans ?_
        show s.count .response + 1 = 1
        rw [hidle]
  | clearResult =>
      rw [← Option.some.inj h]
      exact ⟨inv.core, inv.computing, inv.together, inv.sending⟩
  | elsewhere w use =>
      rw [← Option.some.inj h]
      exact ⟨sound_run use inv.core, inv.computing, inv.together, inv.sending⟩
  | settings p =>
      rw [← Option.some.inj h]
      exact ⟨inv.core, inv.computing, inv.together, inv.sending⟩

end Tab.Steady

/-! ### Coming to rest

A call into the core need not return: nothing bounds the time it takes to read the body of a
response.  The threads at such calls are set aside, any of them; what is said here is said of
the rest, which does not wait for them.
-/

/-- The tab without the threads that are at a call which does not return. -/
def Tab.besides (stalled : List Nat) (s : Tab) : Tab :=
  { s with dispatch := s.dispatch.besides stalled }

/-- One of these threads is on an errand of this kind. -/
def Tab.OnErrand (s : Tab) (threads : List Nat) (k : Errand) : Prop :=
  ∃ i ∈ threads, ∃ worker, s.dispatch.worker? i = some worker ∧ worker.errand = k

/-- The tab's other threads and its updates go on, and nothing else happens. -/
def TabEvent.Settles (stalled : List Nat) : TabEvent → Prop
  | .worker thread _ => thread ∉ stalled
  | .update => True
  | _ => False

theorem workerStep_of_move {thread : Nat} (h : WorkerMove paths w s thread s') :
    s.workerStep paths thread w = some s' := by
  unfold Tab.workerStep
  cases h with
  | posts update hworker => rw [hworker]
  | advances worker hworker hnot =>
      rw [hworker]
      cases worker with
      | posting update => exact absurd rfl (hnot update)
      | _ => rfl

section Besides

variable {stalled : List Nat}

theorem WorkerMove.besides {thread : Nat} (h : WorkerMove paths w s thread s')
    (hthread : thread ∉ stalled) :
    WorkerMove paths w (s.besides stalled) thread (s'.besides stalled) := by
  cases h with
  | posts update hworker =>
      unfold Tab.besides
      rw [Dispatch.besides_post hthread]
      exact .posts update (Dispatch.worker?_besides_eq_some.mpr ⟨hthread, hworker⟩)
  | advances worker hworker hnot =>
      unfold Tab.besides
      rw [Dispatch.besides_advance hthread]
      exact .advances worker (Dispatch.worker?_besides_eq_some.mpr ⟨hthread, hworker⟩) hnot

theorem update_besides (hstalled : s.dispatch.workers.length ∉ stalled)
    (h : s.step paths .update = some s') :
    (s.besides stalled).step paths .update = some (s'.besides stalled) := by
  obtain ⟨⟨update, d⟩, htake, rfl⟩ := Option.map_eq_some_iff.mp h
  have htaken : (s.besides stalled).dispatch.take = some (update, d.besides stalled) := by
    refine (Dispatch.take_besides s.dispatch).trans ?_
    rw [htake]
    rfl
  refine Option.map_eq_some_iff.mpr ⟨_, htaken, ?_⟩
  cases update with
  | status coreOk coreStatus running listenAddr => cases coreOk <;> cases running <;> rfl
  | outputAndRefresh message =>
      have hlength : d.workers.length ∉ stalled := by
        rw [(Dispatch.take_eq_some htake).2]
        exact hstalled
      unfold Tab.applyUpdate Tab.refreshStatus Tab.runBackground Tab.besides
      exact congrArg (fun dispatch => { s with dispatch := dispatch, output := message })
        (Dispatch.besides_spawn hlength .refreshing).symm
  | output message => rfl
  | fingerprint message => rfl
  | response response => rfl

theorem workers_of_settling {event : TabEvent} (hsettles : event.Settles stalled)
    (h : s.step paths event = some s') :
    s.dispatch.workers.length ≤ s'.dispatch.workers.length := by
  cases event with
  | worker thread w =>
      cases workerMove_of_step h with
      | posts update hworker => exact Nat.le_of_eq List.length_set.symm
      | advances worker hworker hnot => exact Nat.le_of_eq List.length_set.symm
  | update =>
      obtain ⟨⟨update, d⟩, htake, rfl⟩ := Option.map_eq_some_iff.mp h
      rw [← (Dispatch.take_eq_some htake).2]
      cases update with
      | status coreOk coreStatus running listenAddr =>
          cases coreOk <;> cases running <;> exact Nat.le_refl _
      | outputAndRefresh message =>
          show d.workers.length ≤ (d.workers ++ [some Worker.refreshing]).length
          rw [List.length_append]
          exact Nat.le_add_right _ _
      | _ => exact Nat.le_refl _
  | _ => exact hsettles.elim

/-- The rest of the tab goes on as if the stalled threads were not there. -/
theorem settling_besides : Machine.Simulation (tabMachine paths) (tabMachine paths)
    (TabEvent.Settles stalled)
    (fun s t => (∀ i ∈ stalled, i < s.dispatch.workers.length) ∧ t = s.besides stalled) where
  step := by
    rintro s t event s' ⟨hstalled, rfl⟩ hsettles h
    have hlength := workers_of_settling hsettles h
    refine ⟨s'.besides stalled, ?_, fun i hi => Nat.lt_of_lt_of_le (hstalled i hi) hlength, rfl⟩
    cases event with
    | worker thread w => exact workerStep_of_move ((workerMove_of_step h).besides hsettles)
    | update =>
        have hnext : s.dispatch.workers.length ∉ stalled :=
          fun hmem => Nat.lt_irrefl _ (hstalled _ hmem)
        have hstep : s.step paths .update = some s' := h
        exact update_besides hnext hstep
    | _ => exact hsettles.elim

/-- **What is under way has a known number of steps to go.** -/
theorem steps_of_settling (hstalled : ∀ i ∈ stalled, i < s.dispatch.workers.length)
    {events : List TabEvent} {t : Tab} (hsettles : ∀ e ∈ events, e.Settles stalled)
    (hrun : (tabMachine paths).run s events = some t) :
    (t.besides stalled).steps + events.length = (s.besides stalled).steps := by
  have hcount : ∀ (events : List TabEvent) (u v : Tab), (∀ e ∈ events, e.Settles stalled) →
      (tabMachine paths).run u events = some v → v.steps + events.length = u.steps := by
    intro events
    induction events with
    | nil =>
        intro u v _ hrun
        rw [Machine.run_nil, Option.some.injEq] at hrun
        rw [hrun]
        rfl
    | cons e rest ih =>
        intro u v hsettles hrun
        obtain ⟨u', hstep, hrest⟩ := (Machine.run_cons_eq_some _).mp hrun
        have hlast := ih u' v (fun e he => hsettles e (List.mem_cons_of_mem _ he)) hrest
        have hone : u'.steps + 1 = u.steps := by
          have he := hsettles e List.mem_cons_self
          cases e with
          | worker thread w => exact steps_workerStep hstep
          | update => exact steps_update paths hstep
          | _ => exact he.elim
        rw [List.length_cons]
        omega
  obtain ⟨t', hrest, -, rfl⟩ := settling_besides.run hsettles ⟨hstalled, rfl⟩ hrun
  exact hcount events _ _ hsettles hrest

/-- While something else is under way, one of its threads can move or an update can run. -/
theorem settles_of_not_idle (h : ¬(s.besides stalled).dispatch.Idle) (w : CallWorld) :
    ∃ e s', TabEvent.Settles stalled e ∧ (tabMachine paths).step s e = some s' := by
  rcases Dispatch.exists_of_not_idle h with ⟨thread, worker, hworker⟩ | ⟨update, d, htake⟩
  · obtain ⟨hthread, hsame⟩ := Dispatch.worker?_besides_eq_some.mp hworker
    by_cases hposting : ∃ update, worker = .posting update
    · obtain ⟨update, rfl⟩ := hposting
      exact ⟨.worker thread w, _, hthread, workerStep_of_move (.posts update hsame)⟩
    · exact ⟨.worker thread w, _, hthread, workerStep_of_move
        (.advances worker hsame fun update hworker => hposting ⟨update, hworker⟩)⟩
  · obtain ⟨taken, htaken, -⟩ := Option.map_eq_some_iff.mp
      ((Dispatch.take_besides s.dispatch).symm.trans htake)
    exact ⟨.update, _, trivial, Option.map_eq_some_iff.mpr ⟨taken, htaken, rfl⟩⟩

/-- With all else done, there is no errand of a kind exactly if no stalled thread has one. -/
theorem count_eq_zero_iff (h : (s.besides stalled).dispatch.Idle) (k : Errand) :
    s.count k = 0 ↔ ¬s.OnErrand stalled k := by
  obtain ⟨hqueue, hworkers⟩ := Dispatch.eq_of_idle_besides h
  constructor
  · rintro hzero ⟨i, -, worker, hworker, herrand⟩
    have hnone := (Dispatch.all_of_weight_eq_zero _ _ hzero).worker hworker
    rw [if_pos herrand] at hnone
    exact absurd hnone Nat.one_ne_zero
  · intro hother
    refine Dispatch.weight_eq_zero _ _ ⟨fun worker hmem => ?_, fun update hmem => ?_⟩
    · obtain ⟨i, hi⟩ := List.mem_iff_getElem?.mp hmem
      have hworker : s.dispatch.worker? i = some worker := by
        unfold Dispatch.worker?
        rw [hi]
        rfl
      exact if_neg fun herrand => hother ⟨i, hworkers i worker hworker, worker, hworker, herrand⟩
    · rw [hqueue] at hmem
      exact absurd hmem List.not_mem_nil

end Besides

end TlsPlus
