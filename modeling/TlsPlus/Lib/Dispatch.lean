/-
Threads that hand their results to one event queue.

A program with a window does its slow work on threads of its own.  Each of them works
for a while and ends by putting an update on the queue of the event thread, which
takes the updates in order, one at a time.  `Dispatch` is the threads by number, those
that have ended included, and the queue.

What is under way is then with a thread or in the queue.  `weight` counts it, at a
price for each stage of it: a price that no stage changes counts the work of a kind,
and a price that falls from stage to stage bounds the steps still to come.  A thread may
be at a call that does not return; `besides` is the rest, which goes on without it.
-/
import Mathlib.Data.List.Basic

structure Dispatch (W U : Type*) where
  /-- the threads; there is nothing left of one that has ended -/
  workers : List (Option W)
  queue : List U

namespace Dispatch

variable {W U : Type*}

def empty : Dispatch W U := ⟨[], []⟩

/-- A new thread is started. -/
def spawn (d : Dispatch W U) (w : W) : Dispatch W U :=
  { d with workers := d.workers ++ [some w] }

/-- What is left of a thread that has not ended. -/
def worker? (d : Dispatch W U) (i : Nat) : Option W := (d.workers[i]?).join

/-- A thread moves on. -/
def advance (d : Dispatch W U) (i : Nat) (w : W) : Dispatch W U :=
  { d with workers := d.workers.set i (some w) }

/-- A thread queues its update and ends. -/
def post (d : Dispatch W U) (i : Nat) (u : U) : Dispatch W U :=
  ⟨d.workers.set i none, d.queue ++ [u]⟩

/-- The update that the event thread takes next. -/
def take (d : Dispatch W U) : Option (U × Dispatch W U) :=
  match d.queue with
  | [] => none
  | u :: rest => some (u, { d with queue := rest })

/-- Nothing is under way. -/
def Idle (d : Dispatch W U) : Prop := (∀ w ∈ d.workers, w = none) ∧ d.queue = []

instance [DecidableEq W] [DecidableEq U] (d : Dispatch W U) : Decidable d.Idle :=
  inferInstanceAs (Decidable (_ ∧ _))

variable {d d' : Dispatch W U} {w : W} {u : U} {i : Nat}

theorem workers_of_worker? (h : d.worker? i = some w) : d.workers[i]? = some (some w) :=
  Option.join_eq_some_iff.mp h

theorem take_eq_some (h : d.take = some (u, d')) :
    d.queue = u :: d'.queue ∧ d'.workers = d.workers := by
  unfold take at h
  split at h
  · exact absurd h (by simp)
  · rename_i v rest hqueue
    obtain ⟨rfl, rfl⟩ := Prod.mk.inj (Option.some.inj h)
    exact ⟨hqueue, rfl⟩

/-- Something that is under way can move on. -/
theorem exists_of_not_idle (h : ¬d.Idle) :
    (∃ i w, d.worker? i = some w) ∨ ∃ u d', d.take = some (u, d') := by
  by_cases hworkers : ∀ w ∈ d.workers, w = none
  · refine Or.inr ?_
    cases hqueue : d.queue with
    | nil => exact absurd ⟨hworkers, hqueue⟩ h
    | cons u rest =>
        refine ⟨u, { d with queue := rest }, ?_⟩
        unfold take
        rw [hqueue]
  · refine Or.inl ?_
    simp only [not_forall] at hworkers
    obtain ⟨w, hmem, hw⟩ := hworkers
    obtain ⟨i, hi⟩ := List.mem_iff_getElem?.mp hmem
    obtain ⟨v, rfl⟩ := Option.ne_none_iff_exists'.mp hw
    exact ⟨i, v, by unfold worker?; rw [hi]; rfl⟩

/-! ### Weights -/

/-- The sum of `f` over a list. -/
def weigh {α : Type*} (f : α → Nat) : List α → Nat
  | [] => 0
  | a :: rest => f a + weigh f rest

section Weigh

variable {α : Type*} (f : α → Nat)

theorem weigh_append (l m : List α) : weigh f (l ++ m) = weigh f l + weigh f m := by
  induction l with
  | nil => exact (Nat.zero_add _).symm
  | cons a rest ih =>
      show f a + weigh f (rest ++ m) = f a + weigh f rest + weigh f m
      omega

theorem weigh_singleton (a : α) : weigh f [a] = f a := Nat.add_zero _

/-- Replacing an element changes the sum by what the two of them weigh. -/
theorem weigh_set {a : α} (b : α) : ∀ {l : List α} {i : Nat}, l[i]? = some a →
    weigh f (l.set i b) + f a = weigh f l + f b := by
  intro l
  induction l with
  | nil =>
      intro i h
      exact absurd h (by simp)
  | cons c rest ih =>
      intro i h
      cases i with
      | zero =>
          obtain rfl : c = a := by simpa using h
          show f b + weigh f rest + f c = f c + weigh f rest + f b
          omega
      | succ i =>
          have hrest := ih (i := i) (by simpa using h)
          show f c + weigh f (rest.set i b) + f a = f c + weigh f rest + f b
          omega

theorem weigh_eq_zero {l : List α} (h : ∀ a ∈ l, f a = 0) : weigh f l = 0 := by
  induction l with
  | nil => rfl
  | cons a rest ih =>
      have hrest := ih fun b hb => h b (List.mem_cons_of_mem a hb)
      show f a + weigh f rest = 0
      rw [h a List.mem_cons_self, hrest]

theorem eq_zero_of_weigh {l : List α} (h : weigh f l = 0) : ∀ a ∈ l, f a = 0 := by
  induction l with
  | nil => exact fun a ha => absurd ha List.not_mem_nil
  | cons b rest ih =>
      intro a ha
      have hsum : f b + weigh f rest = 0 := h
      rcases List.mem_cons.mp ha with rfl | hrest
      · omega
      · exact ih (by omega) a hrest

end Weigh

variable (f : W → Nat) (g : U → Nat)

/-- What is under way weighs: `f` with a thread, `g` in the queue. -/
def weight (d : Dispatch W U) : Nat :=
  weigh (fun w => (w.map f).getD 0) d.workers + weigh g d.queue

theorem weight_spawn (d : Dispatch W U) (w : W) :
    (d.spawn w).weight f g = d.weight f g + f w := by
  show weigh _ (d.workers ++ [some w]) + weigh g d.queue = weigh _ d.workers + weigh g d.queue + f w
  rw [weigh_append, weigh_singleton, Option.map_some, Option.getD_some]
  omega

theorem weight_advance (h : d.worker? i = some w) (w' : W) :
    (d.advance i w').weight f g + f w = d.weight f g + f w' := by
  have hset := weigh_set (fun w => (w.map f).getD 0) (some w') (workers_of_worker? h)
  rw [Option.map_some, Option.getD_some, Option.map_some, Option.getD_some] at hset
  show weigh _ (d.workers.set i (some w')) + weigh g d.queue + f w
    = weigh _ d.workers + weigh g d.queue + f w'
  omega

theorem weight_post (h : d.worker? i = some w) (u : U) :
    (d.post i u).weight f g + f w = d.weight f g + g u := by
  have hset := weigh_set (fun w => (w.map f).getD 0) none (workers_of_worker? h)
  rw [Option.map_some, Option.getD_some, Option.map_none, Option.getD_none] at hset
  show weigh _ (d.workers.set i none) + weigh g (d.queue ++ [u]) + f w
    = weigh _ d.workers + weigh g d.queue + g u
  rw [weigh_append, weigh_singleton]
  omega

theorem weight_take (h : d.take = some (u, d')) : d'.weight f g + g u = d.weight f g := by
  obtain ⟨hqueue, hworkers⟩ := take_eq_some h
  show weigh _ d'.workers + weigh g d'.queue + g u = weigh _ d.workers + weigh g d.queue
  rw [hqueue, hworkers]
  show _ = _ + (g u + weigh g d'.queue)
  omega

theorem weight_of_idle (h : d.Idle) : d.weight f g = 0 := by
  unfold weight
  rw [h.2, weigh_eq_zero _ fun w hw => by rw [h.1 w hw]; rfl]
  rfl

/-! ### Everything under way -/

/-- `P` holds of every thread's work and `Q` of every queued update. -/
structure All (P : W → Prop) (Q : U → Prop) (d : Dispatch W U) : Prop where
  workers : ∀ w, some w ∈ d.workers → P w
  queue : ∀ u ∈ d.queue, Q u

namespace All

variable {P P' : W → Prop} {Q Q' : U → Prop}

theorem empty : (Dispatch.empty : Dispatch W U).All P Q where
  workers _ hw := absurd hw List.not_mem_nil
  queue _ hu := absurd hu List.not_mem_nil

theorem worker (h : d.All P Q) (hw : d.worker? i = some w) : P w :=
  h.workers w (List.mem_of_getElem? (workers_of_worker? hw))

theorem imp (h : d.All P Q) (hP : ∀ w, P w → P' w) (hQ : ∀ u, Q u → Q' u) : d.All P' Q' where
  workers w hw := hP w (h.workers w hw)
  queue u hu := hQ u (h.queue u hu)

theorem spawn (h : d.All P Q) (hw : P w) : (d.spawn w).All P Q where
  workers v hv := by
    rcases List.mem_append.mp hv with hold | hnew
    · exact h.workers v hold
    · rw [Option.some.inj (List.mem_singleton.mp hnew)]
      exact hw
  queue := h.queue

theorem advance (h : d.All P Q) (hw : P w) : (d.advance i w).All P Q where
  workers v hv := by
    rcases List.mem_or_eq_of_mem_set hv with hold | hnew
    · exact h.workers v hold
    · rw [Option.some.inj hnew]
      exact hw
  queue := h.queue

theorem post (h : d.All P Q) (hu : Q u) : (d.post i u).All P Q where
  workers v hv := by
    rcases List.mem_or_eq_of_mem_set hv with hold | hnew
    · exact h.workers v hold
    · exact absurd hnew (by simp)
  queue v hv := by
    rcases List.mem_append.mp hv with hold | hnew
    · exact h.queue v hold
    · rw [List.mem_singleton.mp hnew]
      exact hu

theorem taken (h : d.All P Q) (htake : d.take = some (u, d')) : Q u ∧ d'.All P Q := by
  obtain ⟨hqueue, hworkers⟩ := take_eq_some htake
  have hall := h.queue
  rw [hqueue] at hall
  refine ⟨hall u List.mem_cons_self, ⟨fun w hw => h.workers w (hworkers ▸ hw), fun v hv => ?_⟩⟩
  exact hall v (List.mem_cons_of_mem u hv)

theorem of_idle (h : d.Idle) : d.All P Q where
  workers w hw := absurd (h.1 _ hw) (by simp)
  queue u hu := absurd hu (by rw [h.2]; exact List.not_mem_nil)

end All

/-- If what is under way weighs nothing, no part of it does. -/
theorem all_of_weight_eq_zero (h : d.weight f g = 0) :
    d.All (fun w => f w = 0) (fun u => g u = 0) where
  workers w hw := by
    have hnone := eq_zero_of_weigh _ (Nat.eq_zero_of_add_eq_zero_right h) (some w) hw
    simpa using hnone
  queue := eq_zero_of_weigh g (Nat.eq_zero_of_add_eq_zero_left h)

theorem weight_eq_zero (h : d.All (fun w => f w = 0) (fun u => g u = 0)) : d.weight f g = 0 := by
  have hworkers : weigh (fun w => (w.map f).getD 0) d.workers = 0 := by
    refine weigh_eq_zero _ fun w hw => ?_
    cases w with
    | none => rfl
    | some w => exact h.workers w hw
  unfold weight
  rw [hworkers, weigh_eq_zero g h.queue]

/-! ### Threads that do not come back -/

/-- The same, but for these threads. -/
def besides (stalled : List Nat) (d : Dispatch W U) : Dispatch W U :=
  { d with workers := d.workers.mapIdx fun i w => if i ∈ stalled then none else w }

section Besides

variable {stalled : List Nat}

theorem worker?_besides_eq_some :
    (d.besides stalled).worker? i = some w ↔ i ∉ stalled ∧ d.worker? i = some w := by
  unfold worker? besides
  rw [List.getElem?_mapIdx]
  by_cases hi : i ∈ stalled
  · refine iff_of_false ?_ fun h => h.1 hi
    cases d.workers[i]? <;> simp [hi]
  · rw [and_iff_right hi]
    cases d.workers[i]? <;> simp [hi]

theorem besides_spawn (h : d.workers.length ∉ stalled) (w : W) :
    (d.spawn w).besides stalled = (d.besides stalled).spawn w := by
  unfold spawn besides
  rw [List.mapIdx_concat, if_neg h]

theorem besides_set {l : List (Option W)} (h : i ∉ stalled) (w : Option W) :
    (l.set i w).mapIdx (fun j v => if j ∈ stalled then none else v)
      = (l.mapIdx fun j v => if j ∈ stalled then none else v).set i w := by
  refine List.ext_getElem? fun j => ?_
  rw [List.getElem?_mapIdx, List.getElem?_set, List.getElem?_set, List.getElem?_mapIdx,
    List.length_mapIdx]
  by_cases hij : i = j
  · subst hij
    rw [if_pos rfl, if_pos rfl]
    simp only [if_neg h]
    exact Option.map_id'
  · rw [if_neg hij, if_neg hij]

theorem besides_advance (h : i ∉ stalled) (w : W) :
    (d.advance i w).besides stalled = (d.besides stalled).advance i w := by
  unfold advance besides
  rw [besides_set h]

theorem besides_post (h : i ∉ stalled) (u : U) :
    (d.post i u).besides stalled = (d.besides stalled).post i u := by
  unfold post besides
  rw [besides_set h]

theorem take_besides (d : Dispatch W U) :
    (d.besides stalled).take = d.take.map (Prod.map id (besides stalled)) := by
  unfold take besides
  simp only
  cases d.queue <;> rfl

/-- If nothing else is under way, what is left is with these threads. -/
theorem eq_of_idle_besides (h : (d.besides stalled).Idle) :
    d.queue = [] ∧ ∀ i w, d.worker? i = some w → i ∈ stalled := by
  refine ⟨h.2, fun i w hw => ?_⟩
  by_contra hi
  have hstill := worker?_besides_eq_some.mpr ⟨hi, hw⟩
  exact absurd (h.1 _ (List.mem_of_getElem? (workers_of_worker? hstill))) (by simp)

end Besides

end Dispatch
