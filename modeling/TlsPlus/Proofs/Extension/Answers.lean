/-
An answer belongs to the last click.

A fingerprint or a test request is computed by a thread while the tab goes on: the text
field may be edited, the profile changed and the box cleared.  Since the button is off
until the answer has come, nothing is asked twice at a time, and an answer that comes is
the one to the click made last (`answers_last_click`).  This holds only where a button is
taken away: the details of two profiles may overtake each other.

The invariant is that whatever is under way was asked for last, and is the click's own
thread or an answer that this thread was given after the click (`Current`).
-/
import TlsPlus.Proofs.Extension.Header

namespace TlsPlus

variable {paths : LoaderPaths} {w : CallWorld} {s₀ s s' : Tab} {events : List TabEvent}
  {event : TabEvent} {k : Errand}

/-! ### Clicks and answers -/

/-- The thread that a click starts, if it is to bring a thing of this kind. -/
def TabEvent.asks (k : Errand) : TabEvent → Option Worker
  | .computeJa4 hex => if k = .fingerprint then some (.computingJa4 hex) else none
  | .computeJa3 hex => if k = .fingerprint then some (.computingJa3 hex) else none
  | .sendProxyRequest method text profile =>
    if k = .response then
      some (.requesting (method.getD "GET")
        ((text.dropWhile kotlinIsWhitespace).rdropWhile kotlinIsWhitespace)
        (profile.getD "pass-through"))
    else none
  | _ => none

/-- What was asked for last. -/
def lastAsked (k : Errand) (events : List TabEvent) : Option Worker :=
  (events.filterMap (TabEvent.asks k)).getLast?

theorem lastAsked_snoc (k : Errand) (events : List TabEvent) (event : TabEvent) :
    lastAsked k (events ++ [event]) = (event.asks k).or (lastAsked k events) := by
  unfold lastAsked
  rw [List.filterMap_append, List.getLast?_append]
  cases hasks : event.asks k with
  | none => rw [List.filterMap_cons_none hasks]; rfl
  | some block => rw [List.filterMap_cons_some hasks]; rfl

/-- The update shows what the thread of the last click was given, after the click. -/
def AnswersLast (paths : LoaderPaths) (s₀ : Tab) (k : Errand) (events : List TabEvent)
    (update : Update) : Prop :=
  ∃ before thread w after u block, events = before ++ .worker thread w :: after ∧
    (tabMachine paths).run s₀ before = some u ∧ u.dispatch.worker? thread = some block ∧
    lastAsked k before = some block ∧ (∀ e ∈ after, TabEvent.asks k e = none) ∧
    (block.advance paths w u.shared).1 = .posting update

theorem AnswersLast.snoc {update : Update} (h : AnswersLast paths s₀ k events update)
    (hasks : event.asks k = none) : AnswersLast paths s₀ k (events ++ [event]) update := by
  obtain ⟨before, thread, w, after, u, block, rfl, hrun, hworker, hlast, hafter, hanswer⟩ := h
  refine ⟨before, thread, w, after ++ [event], u, block, by simp, hrun, hworker, hlast, ?_,
    hanswer⟩
  intro e he
  rcases List.mem_append.mp he with hold | hnew
  · exact hafter e hold
  · rw [List.mem_singleton.mp hnew]
    exact hasks

/-! ### What is under way -/

/-- The kinds of things that are asked for by buttons that go off. -/
def Errand.Guarded (k : Errand) : Prop := k = .fingerprint ∨ k = .response

variable {A A' : Update → Prop} {asked : Option Worker}

/-- A thread of this kind was asked for last, or has an answer to queue. -/
def Worker.Current (k : Errand) (A : Update → Prop) (asked : Option Worker) (worker : Worker) :
    Prop :=
  worker.errand = k →
    (asked = some worker ∧ ∀ update, worker ≠ .posting update) ∨
      ∃ update, worker = .posting update ∧ A update

def Update.Current (k : Errand) (A : Update → Prop) (update : Update) : Prop :=
  update.errand = k → A update

def Tab.Current (k : Errand) (A : Update → Prop) (asked : Option Worker) (s : Tab) : Prop :=
  s.dispatch.All (Worker.Current k A asked) (Update.Current k A)

/-- A thread that computes a fingerprint or sends a request is one call away from its answer. -/
theorem posting_of_advance (hk : k.Guarded) {worker : Worker} (herrand : worker.errand = k)
    (hnot : ∀ update, worker ≠ .posting update) (shared : Shared) :
    ∃ update, (worker.advance paths w shared).1 = .posting update ∧ update.errand = k := by
  have hstatus : Errand.status ≠ k := by rcases hk with rfl | rfl <;> decide
  have houtput : Errand.output ≠ k := by rcases hk with rfl | rfl <;> decide
  cases worker with
  | computingJa4 hex | computingJa3 hex | requesting method url profile =>
      exact ⟨_, rfl, herrand⟩
  | posting update => exact absurd rfl (hnot update)
  | loadingProfile name => exact absurd herrand houtput
  | _ => exact absurd herrand hstatus

namespace Tab.Current

theorem imp (h : s.Current k A asked) (hA : ∀ update, A update → A' update) :
    s.Current k A' asked := by
  refine Dispatch.All.imp h (fun worker hworker herrand => ?_)
    fun update hupdate herrand => hA update (hupdate herrand)
  refine (hworker herrand).imp_right ?_
  rintro ⟨update, hposting, hanswer⟩
  exact ⟨update, hposting, hA update hanswer⟩

/-- A thread with another errand is started. -/
theorem spawn (h : s.Current k A asked) {block : Worker} (hother : block.errand ≠ k) :
    (s.runBackground block).Current k A asked :=
  Dispatch.All.spawn h fun herrand => absurd herrand hother

/-- A click starts its thread when there is no other of its kind. -/
theorem click (hidle : s.count k = 0) {block : Worker} (hblock : ∀ update, block ≠ .posting update)
    (hdispatch : s'.dispatch = s.dispatch.spawn block) : s'.Current k A (some block) := by
  have hnone := Dispatch.all_of_weight_eq_zero _ _ hidle
  have hall : s.dispatch.All (Worker.Current k A (some block)) (Update.Current k A) := by
    refine hnone.imp (fun worker hzero herrand => ?_) fun update hzero herrand => ?_
    · rw [if_pos herrand] at hzero
      exact absurd hzero Nat.one_ne_zero
    · rw [if_pos herrand] at hzero
      exact absurd hzero Nat.one_ne_zero
  unfold Tab.Current
  rw [hdispatch]
  exact hall.spawn fun _ => Or.inl ⟨rfl, hblock⟩

theorem worker (hk : k.Guarded) (h : s.Current k A asked) {thread : Nat}
    (hnow : ∀ block update, s.dispatch.worker? thread = some block → asked = some block →
      (block.advance paths w s.shared).1 = .posting update → A update)
    (hstep : s.workerStep paths thread w = some s') : s'.Current k A asked := by
  cases workerMove_of_step hstep with
  | posts update hworker =>
      refine Dispatch.All.post h fun herrand => ?_
      rcases Dispatch.All.worker h hworker herrand with ⟨-, hnot⟩ | ⟨update', hposting, hanswer⟩
      · exact absurd rfl (hnot update)
      · rw [Worker.posting.inj hposting]
        exact hanswer
  | advances worker hworker hnot =>
      refine Dispatch.All.advance h fun herrand => ?_
      rw [errand_advance] at herrand
      rcases Dispatch.All.worker h hworker herrand with ⟨hasked, -⟩ | ⟨update, hposting, -⟩
      · obtain ⟨update, hposting, -⟩ := posting_of_advance hk herrand hnot s.shared
        exact Or.inr ⟨update, hposting, hnow worker update hworker hasked hposting⟩
      · exact absurd hposting (hnot update)

theorem update (hk : k.Guarded) (h : s.Current k A asked)
    (hstep : s.step paths .update = some s') : s'.Current k A asked := by
  obtain ⟨⟨update, d⟩, htake, rfl⟩ := Option.map_eq_some_iff.mp hstep
  have hrest : ({ s with dispatch := d } : Tab).Current k A asked :=
    (Dispatch.All.taken h htake).2
  cases update with
  | status coreOk coreStatus running listenAddr => cases coreOk <;> cases running <;> exact hrest
  | outputAndRefresh message =>
      have hother : Worker.refreshing.errand ≠ k := by rcases hk with rfl | rfl <;> decide
      exact hrest.spawn hother
  | output message => exact hrest
  | fingerprint message => exact hrest
  | response response => exact hrest

/-- **A step that asks for nothing of the kind** keeps what is under way. -/
theorem step (hk : k.Guarded) (h : s.Current k A asked) (hasks : event.asks k = none)
    (hnow : ∀ thread w block update, event = .worker thread w →
      s.dispatch.worker? thread = some block → asked = some block →
      (block.advance paths w s.shared).1 = .posting update → A update)
    (hstep : s.step paths event = some s') : s'.Current k A asked := by
  have hstatus : Errand.status ≠ k := by rcases hk with rfl | rfl <;> decide
  have houtput : Errand.output ≠ k := by rcases hk with rfl | rfl <;> decide
  cases event with
  | worker thread w => exact h.worker hk (fun block update => hnow thread w block update rfl) hstep
  | update => exact h.update hk hstep
  | addNotify | refreshStatus | refreshCore =>
      rw [← Option.some.inj hstep]
      exact h.spawn hstatus
  | tick | startServer _ | stopServer =>
      obtain ⟨-, hs'⟩ := Option.ite_none_right_eq_some.mp hstep
      rw [← Option.some.inj hs']
      exact h.spawn hstatus
  | computeJa4 hex | computeJa3 hex =>
      obtain ⟨-, hs'⟩ := Option.ite_none_right_eq_some.mp hstep
      rw [← Option.some.inj hs']
      refine h.spawn fun herrand => ?_
      have hfingerprint : k = .fingerprint := herrand.symm
      rw [TabEvent.asks, if_pos hfingerprint] at hasks
      exact absurd hasks (by simp)
  | sendProxyRequest method text profile =>
      obtain ⟨-, hs'⟩ := Option.ite_none_right_eq_some.mp hstep
      rw [← Option.some.inj hs']
      refine h.spawn fun herrand => ?_
      have hresponse : k = .response := herrand.symm
      rw [TabEvent.asks, if_pos hresponse] at hasks
      exact absurd hasks (by simp)
  | showProfileDetails selectedItem =>
      rw [← Option.some.inj hstep]
      cases selectedItem with
      | none => exact h
      | some name => exact h.spawn houtput
  | removeNotify | clear _ | clearResult | elsewhere _ _ | settings _ =>
      rw [← Option.some.inj hstep]
      exact h

end Tab.Current

/-- **A click that is let through finds nothing of its kind under way**, and starts its thread. -/
theorem click_of_asks (hsteady : s.Steady) {block : Worker} (hasks : event.asks k = some block)
    (hstep : s.step paths event = some s') :
    s.count k = 0 ∧ (∀ update, block ≠ .posting update) ∧
      s'.dispatch = s.dispatch.spawn block := by
  cases event with
  | computeJa4 hex =>
      obtain ⟨rfl, hblock⟩ := Option.ite_none_right_eq_some.mp hasks
      obtain ⟨henabled, hs'⟩ := Option.ite_none_right_eq_some.mp hstep
      rw [← Option.some.inj hs', ← Option.some.inj hblock, hsteady.computing, if_pos henabled]
      exact ⟨rfl, fun update h => absurd h (by simp), rfl⟩
  | computeJa3 hex =>
      obtain ⟨rfl, hblock⟩ := Option.ite_none_right_eq_some.mp hasks
      obtain ⟨henabled, hs'⟩ := Option.ite_none_right_eq_some.mp hstep
      rw [← Option.some.inj hs', ← Option.some.inj hblock, hsteady.computing,
        if_pos (hsteady.together ▸ henabled)]
      exact ⟨rfl, fun update h => absurd h (by simp), rfl⟩
  | sendProxyRequest method text profile =>
      obtain ⟨rfl, hblock⟩ := Option.ite_none_right_eq_some.mp hasks
      obtain ⟨henabled, hs'⟩ := Option.ite_none_right_eq_some.mp hstep
      rw [← Option.some.inj hs', ← Option.some.inj hblock, hsteady.sending, if_pos henabled]
      exact ⟨rfl, fun update h => absurd h (by simp), rfl⟩
  | _ => exact absurd hasks (by simp [TabEvent.asks])

/-- What is under way at the end of a run was asked for last in it. -/
def CurrentAfter (paths : LoaderPaths) (s₀ : Tab) (k : Errand) (events : List TabEvent) (s : Tab) :
    Prop :=
  s.Current k (AnswersLast paths s₀ k events) (lastAsked k events)

theorem currentAfter_step (hk : k.Guarded) (hsteady : s.Steady)
    (hrun : (tabMachine paths).run s₀ events = some s) (h : CurrentAfter paths s₀ k events s)
    (hstep : s.step paths event = some s') :
    CurrentAfter paths s₀ k (events ++ [event]) s' := by
  unfold CurrentAfter
  rw [lastAsked_snoc]
  cases hasks : event.asks k with
  | some block =>
      obtain ⟨hidle, hblock, hdispatch⟩ := click_of_asks hsteady hasks hstep
      exact Tab.Current.click hidle hblock hdispatch
  | none =>
      have hlater : s.Current k (AnswersLast paths s₀ k (events ++ [event])) (lastAsked k events) :=
        Tab.Current.imp h fun update hanswers => hanswers.snoc hasks
      refine hlater.step hk hasks (fun thread w block update hevent hworker hasked hposting => ?_)
        hstep
      exact ⟨events, thread, w, [], s, block, by rw [hevent], hrun, hworker, hasked,
        fun e he => absurd he List.not_mem_nil, hposting⟩

/-! ### What is shown -/

/-- The box of the outbound test shows what was asked for last, or the answer to it. -/
def ShowsLast (paths : LoaderPaths) (s₀ : Tab) (events : List TabEvent) : TestResult → Prop
  | .blank => True
  | .sending url => ∃ method profile,
      lastAsked .response events = some (.requesting method url profile)
  | .answered response => AnswersLast paths s₀ .response events (.response response)

theorem ShowsLast.snoc {result : TestResult} (h : ShowsLast paths s₀ events result)
    (hasks : event.asks .response = none) : ShowsLast paths s₀ (events ++ [event]) result := by
  cases result with
  | blank => trivial
  | sending url =>
      obtain ⟨method, profile, hlast⟩ := h
      refine ⟨method, profile, ?_⟩
      rw [lastAsked_snoc, hasks]
      exact hlast
  | answered response => exact AnswersLast.snoc h hasks

theorem showsLast_step (hcurrent : CurrentAfter paths s₀ .response events s)
    (h : ShowsLast paths s₀ events s.proxyTestResult) (hstep : s.step paths event = some s') :
    ShowsLast paths s₀ (events ++ [event]) s'.proxyTestResult := by
  cases event with
  | worker thread w =>
      cases workerMove_of_step hstep with
      | posts update hworker => exact h.snoc rfl
      | advances worker hworker hnot => exact h.snoc rfl
  | update =>
      obtain ⟨⟨update, d⟩, htake, rfl⟩ := Option.map_eq_some_iff.mp hstep
      cases update with
      | response response =>
          have hanswers := (Dispatch.All.taken hcurrent htake).1 rfl
          exact AnswersLast.snoc hanswers rfl
      | status coreOk coreStatus running listenAddr =>
          cases coreOk <;> cases running <;> exact h.snoc rfl
      | outputAndRefresh message | output message | fingerprint message => exact h.snoc rfl
  | sendProxyRequest method text profile =>
      obtain ⟨-, hs'⟩ := Option.ite_none_right_eq_some.mp hstep
      rw [← Option.some.inj hs']
      refine ⟨method.getD "GET", profile.getD "pass-through", ?_⟩
      rw [lastAsked_snoc]
      rfl
  | clearResult =>
      rw [← Option.some.inj hstep]
      exact trivial
  | tick | computeJa4 _ | computeJa3 _ | startServer _ | stopServer =>
      obtain ⟨-, hs'⟩ := Option.ite_none_right_eq_some.mp hstep
      rw [← Option.some.inj hs']
      exact h.snoc rfl
  | showProfileDetails selectedItem =>
      rw [← Option.some.inj hstep]
      cases selectedItem with
      | none => exact h.snoc rfl
      | some name => exact h.snoc rfl
  | addNotify | refreshStatus | refreshCore | removeNotify | clear _ | elsewhere _ _
  | settings _ =>
      rw [← Option.some.inj hstep]
      exact h.snoc rfl

variable {p : Preferences} {loader : NativeLoader} {output : Str}

/-- All along a run, what is under way and what the box shows was asked for last. -/
theorem current_of_run (hrun : (tabMachine paths).run (.init p loader output) events = some s) :
    (∀ k, k.Guarded → CurrentAfter paths (.init p loader output) k events s) ∧
      ShowsLast paths (.init p loader output) events s.proxyTestResult := by
  have hinit : ∀ k, k.Guarded → CurrentAfter paths (.init p loader output) k []
      (.init p loader output) := by
    intro k hk
    refine Dispatch.All.spawn Dispatch.All.empty fun herrand => ?_
    have hstatus : Errand.status ≠ k := by rcases hk with rfl | rfl <;> decide
    exact absurd herrand hstatus
  have hend := Machine.run_history
    (P := fun past u => (tabMachine paths).run (.init p loader output) past = some u ∧ u.Steady ∧
      (∀ k, k.Guarded → CurrentAfter paths (.init p loader output) k past u) ∧
      ShowsLast paths (.init p loader output) past u.proxyTestResult)
    ⟨rfl, Tab.Steady.init p loader output, hinit, trivial⟩
    (fun past u event u' ⟨hpast, hsteady, hcurrent, hshows⟩ hstep =>
      ⟨Machine.run_snoc hpast hstep, hsteady.step hstep,
        fun k hk => currentAfter_step hk hsteady hpast (hcurrent k hk) hstep,
        showsLast_step (hcurrent .response (Or.inr rfl)) hshows hstep⟩) hrun
  exact hend.2.2

/-- A fingerprint that is about to be shown answers the last click. -/
theorem answersLast_of_take
    (hrun : (tabMachine paths).run (.init p loader output) events = some s) {message : Str}
    {d : Dispatch Worker Update} (htake : s.dispatch.take = some (.fingerprint message, d)) :
    AnswersLast paths (.init p loader output) .fingerprint events (.fingerprint message) :=
  (Dispatch.All.taken ((current_of_run hrun).1 .fingerprint (Or.inl rfl)) htake).1 rfl

/-- **An answer belongs to the last click.**  However clicks, edits, ticks, threads and updates
interleave, the box of the outbound test is empty, names the URL that was sent last, or shows the
response that the thread of the last *Send Request* was given after that click; and a fingerprint
that is about to be shown is the one that the thread of the last *Compute* was given after that
click, of the text that stood in the field then. -/
theorem answers_last_click
    (hrun : (tabMachine paths).run (.init p loader output) events = some s) :
    ShowsLast paths (.init p loader output) events s.proxyTestResult ∧
    ∀ message d, s.dispatch.take = some (.fingerprint message, d) →
      AnswersLast paths (.init p loader output) .fingerprint events (.fingerprint message) :=
  ⟨(current_of_run hrun).2, fun _ _ htake => answersLast_of_take hrun htake⟩

/-- A request is sent and answered, and a fingerprint is computed and queued. -/
def requestAndFingerprint : List TabEvent :=
  [.sendProxyRequest none " https://up.example/ " (some "chrome_149"), .computeJa4 "1603",
   .worker 1 sampleCall, .worker 2 sampleCall, .worker 1 sampleCall, .update, .worker 2 sampleCall]

theorem answers_last_click_both : ∃ s,
    (tabMachine samplePaths).run (.init .empty ⟨false, none⟩ []) requestAndFingerprint = some s ∧
      ∃ response message,
        AnswersLast samplePaths (.init .empty ⟨false, none⟩ []) .response requestAndFingerprint
          (.response response) ∧
        AnswersLast samplePaths (.init .empty ⟨false, none⟩ []) .fingerprint requestAndFingerprint
          (.fingerprint message) := by
  obtain ⟨s, hrun⟩ : ∃ s, (tabMachine samplePaths).run (.init .empty ⟨false, none⟩ [])
      requestAndFingerprint = some s := ⟨_, rfl⟩
  obtain ⟨response, hresponse⟩ : ∃ response, s.proxyTestResult = .answered response :=
    ⟨_, by rw [← Option.some.inj hrun]; rfl⟩
  obtain ⟨message, d, htake⟩ : ∃ message d, s.dispatch.take = some (.fingerprint message, d) :=
    ⟨_, _, by rw [← Option.some.inj hrun]; rfl⟩
  obtain ⟨hshows, hqueued⟩ := answers_last_click hrun
  rw [hresponse] at hshows
  exact ⟨s, hrun, response, message, hshows, hqueued message d htake⟩

/-- The details of the profile picked last are overtaken by those of the one before. -/
example : ((tabMachine samplePaths).run (.init .empty ⟨false, none⟩ [])
    ([.showProfileDetails (some "curl_8"), .showProfileDetails (some "opera_119")]
      ++ List.replicate 2 (.worker 2 sampleCall) ++ List.replicate 2 (.worker 1 sampleCall)
      ++ [.update, .update])).map Tab.output
    = some "No profile details available for 'curl_8'." := by decide

end TlsPlus
