/-
Sets of spawned tasks that are joined one by one.

A set keeps every task it ever spawned, with how far the task has got.  Tasks are
told apart by their position, so a task that is spawned once stands there once, and
since a phase only moves forward a task is joined once at most.
-/
import Mathlib.Data.List.Basic

inductive TaskOutcome where
  | completed | failed | panicked | cancelled
deriving DecidableEq, Repr

/-- Tasks run, possibly with a request to abort, then end, and are joined last. -/
inductive TaskPhase where
  | running
  | aborting
  | ended (outcome : TaskOutcome)
  | joined (outcome : TaskOutcome)
deriving DecidableEq, Repr

def TaskPhase.isJoined : TaskPhase → Bool
  | .joined _ => true
  | _ => false

/-- How a task has ended, if it has. -/
def TaskPhase.outcome : TaskPhase → Option TaskOutcome
  | .ended outcome => some outcome
  | .joined outcome => some outcome
  | _ => none

/-- The task was asked to abort, and has not ended in another way. -/
def TaskPhase.isAborted : TaskPhase → Bool
  | .running => false
  | .aborting => true
  | .ended outcome => outcome = .cancelled
  | .joined outcome => outcome = .cancelled

/-- How many steps a task has left: to end, and to be joined. -/
def TaskPhase.stepsLeft : TaskPhase → Nat
  | .running => 2
  | .aborting => 2
  | .ended _ => 1
  | .joined _ => 0

structure SpawnedTask (α : Type) where
  job : α
  phase : TaskPhase
deriving DecidableEq, Repr

structure JoinSet (α : Type) where
  tasks : List (SpawnedTask α)
deriving DecidableEq, Repr

namespace JoinSet

variable {α : Type}

def empty : JoinSet α := ⟨[]⟩

/-- The jobs of all tasks, in the order of spawning. -/
def spawned (s : JoinSet α) : List α := s.tasks.map SpawnedTask.job

def spawn (s : JoinSet α) (job : α) : JoinSet α := ⟨s.tasks ++ [⟨job, .running⟩]⟩

/-- Asks every running task to abort. -/
def abortAll (s : JoinSet α) : JoinSet α :=
  ⟨s.tasks.map fun task =>
    { task with phase := if task.phase = .running then .aborting else task.phase }⟩

/-- A task ends; only one that was asked to abort ends cancelled. -/
def finish (s : JoinSet α) (i : Nat) (outcome : TaskOutcome) : Option (JoinSet α) :=
  match s.tasks[i]? with
  | some ⟨job, .running⟩ =>
    if outcome = .cancelled then none else some ⟨s.tasks.set i ⟨job, .ended outcome⟩⟩
  | some ⟨job, .aborting⟩ => some ⟨s.tasks.set i ⟨job, .ended outcome⟩⟩
  | _ => none

/-- Joins a task that has ended. -/
def joinNext (s : JoinSet α) (i : Nat) : Option (JoinSet α) :=
  match s.tasks[i]? with
  | some ⟨job, .ended outcome⟩ => some ⟨s.tasks.set i ⟨job, .joined outcome⟩⟩
  | _ => none

/-- No task is left to join. -/
def isEmpty (s : JoinSet α) : Bool := s.tasks.all fun task => task.phase.isJoined

/-- Every task that was ever spawned has been joined. -/
def AllJoined (s : JoinSet α) : Prop := ∀ task ∈ s.tasks, ∃ outcome, task.phase = .joined outcome

theorem isEmpty_iff {s : JoinSet α} : s.isEmpty = true ↔ s.AllJoined := by
  unfold isEmpty AllJoined
  rw [List.all_eq_true]
  refine forall₂_congr fun task _ => ?_
  unfold TaskPhase.isJoined
  cases task.phase <;> simp

/-- The jobs of the tasks that are left to join. -/
def left (s : JoinSet α) : List α :=
  (s.tasks.filter fun task => !task.phase.isJoined).map SpawnedTask.job

theorem left_of_allJoined {s : JoinSet α} (h : s.AllJoined) : s.left = [] := by
  unfold left
  rw [List.map_eq_nil_iff, List.filter_eq_nil_iff]
  intro task htask
  obtain ⟨outcome, hphase⟩ := h task htask
  simp [hphase, TaskPhase.isJoined]

/-- Whether the task at position `i` has been joined. -/
def joined (s : JoinSet α) (i : Nat) : Bool := (s.tasks[i]?).any fun task => task.phase.isJoined

/-! ### What each operation leaves at a position -/

theorem getElem?_spawn (s : JoinSet α) (job : α) (j : Nat) :
    (s.spawn job).tasks[j]? = if j = s.tasks.length then some ⟨job, .running⟩ else s.tasks[j]? := by
  unfold spawn
  rcases Nat.lt_trichotomy j s.tasks.length with hlt | heq | hgt
  · rw [List.getElem?_append_left hlt, if_neg (Nat.ne_of_lt hlt)]
  · rw [heq, List.getElem?_append_right (Nat.le_refl _), Nat.sub_self, if_pos rfl]
    rfl
  · rw [if_neg (Nat.ne_of_gt hgt), List.getElem?_eq_none (Nat.le_of_lt hgt),
      List.getElem?_eq_none (by simpa using Nat.succ_le_of_lt hgt)]

theorem getElem?_abortAll (s : JoinSet α) (j : Nat) :
    s.abortAll.tasks[j]? = (s.tasks[j]?).map fun task =>
      { task with phase := if task.phase = .running then .aborting else task.phase } := by
  unfold abortAll
  rw [List.getElem?_map]

/-- A task ends that was running, or was asked to abort; the others are left alone. -/
theorem tasks_of_finish {s s' : JoinSet α} {i : Nat} {outcome : TaskOutcome}
    (h : s.finish i outcome = some s') :
    ∃ task, s.tasks[i]? = some task ∧
      (task.phase = .running ∧ outcome ≠ .cancelled ∨ task.phase = .aborting) ∧
      s'.tasks = s.tasks.set i ⟨task.job, .ended outcome⟩ := by
  unfold finish at h
  split at h
  · rename_i job htask
    split at h
    · exact absurd h (by simp)
    · rename_i hcancelled
      rw [← Option.some.inj h]
      exact ⟨_, htask, Or.inl ⟨rfl, hcancelled⟩, rfl⟩
  · rename_i job htask
    rw [← Option.some.inj h]
    exact ⟨_, htask, Or.inr rfl, rfl⟩
  · exact absurd h (by simp)

/-- A task is joined that had ended; the others are left alone. -/
theorem tasks_of_joinNext {s s' : JoinSet α} {i : Nat} (h : s.joinNext i = some s') :
    ∃ job outcome, s.tasks[i]? = some ⟨job, .ended outcome⟩ ∧
      s'.tasks = s.tasks.set i ⟨job, .joined outcome⟩ := by
  unfold joinNext at h
  split at h
  · rename_i job outcome htask
    rw [← Option.some.inj h]
    exact ⟨job, outcome, htask, rfl⟩
  · exact absurd h (by simp)

private theorem getElem?_set_of_some {tasks : List (SpawnedTask α)} {i : Nat}
    {before after : SpawnedTask α} (h : tasks[i]? = some before) (j : Nat) :
    (tasks.set i after)[j]? = if j = i then some after else tasks[j]? := by
  obtain ⟨hi, -⟩ := List.getElem?_eq_some_iff.mp h
  by_cases hj : j = i
  · rw [if_pos hj, hj, List.getElem?_set_self hi]
  · rw [if_neg hj, List.getElem?_set_ne (Ne.symm hj)]

theorem getElem?_of_finish {s s' : JoinSet α} {i : Nat} {outcome : TaskOutcome}
    (h : s.finish i outcome = some s') :
    ∃ task, s.tasks[i]? = some task ∧
      (task.phase = .running ∧ outcome ≠ .cancelled ∨ task.phase = .aborting) ∧
      ∀ j, s'.tasks[j]? = if j = i then some ⟨task.job, .ended outcome⟩ else s.tasks[j]? := by
  obtain ⟨task, htask, hphase, hset⟩ := tasks_of_finish h
  exact ⟨task, htask, hphase, fun j => by rw [hset, getElem?_set_of_some htask]⟩

theorem getElem?_of_joinNext {s s' : JoinSet α} {i : Nat} (h : s.joinNext i = some s') :
    ∃ job outcome, s.tasks[i]? = some ⟨job, .ended outcome⟩ ∧
      ∀ j, s'.tasks[j]? = if j = i then some ⟨job, .joined outcome⟩ else s.tasks[j]? := by
  obtain ⟨job, outcome, htask, hset⟩ := tasks_of_joinNext h
  exact ⟨job, outcome, htask, fun j => by rw [hset, getElem?_set_of_some htask]⟩

/-! ### Which jobs were spawned -/

@[simp] theorem spawned_spawn (s : JoinSet α) (job : α) :
    (s.spawn job).spawned = s.spawned ++ [job] := by
  simp [spawned, spawn]

@[simp] theorem spawned_abortAll (s : JoinSet α) : s.abortAll.spawned = s.spawned := by
  simp [spawned, abortAll]

private theorem spawned_set {s : JoinSet α} {i : Nat} {job : α} {phase phase' : TaskPhase}
    (h : s.tasks[i]? = some ⟨job, phase⟩) :
    (JoinSet.mk (s.tasks.set i ⟨job, phase'⟩)).spawned = s.spawned := by
  have hjob : (s.tasks.map SpawnedTask.job)[i]? = some job := by simp [h]
  obtain ⟨hi, hget⟩ := List.getElem?_eq_some_iff.mp hjob
  unfold spawned
  rw [List.map_set, ← hget]
  exact List.set_getElem_self hi

theorem spawned_of_finish {s s' : JoinSet α} {i : Nat} {outcome : TaskOutcome}
    (h : s.finish i outcome = some s') : s'.spawned = s.spawned := by
  unfold finish at h
  split at h
  · rename_i job htask
    split at h
    · exact absurd h (by simp)
    · rw [← Option.some.inj h]
      exact spawned_set htask
  · rename_i job htask
    rw [← Option.some.inj h]
    exact spawned_set htask
  · exact absurd h (by simp)

theorem spawned_of_joinNext {s s' : JoinSet α} {i : Nat} (h : s.joinNext i = some s') :
    s'.spawned = s.spawned := by
  unfold joinNext at h
  split at h
  · rename_i job outcome htask
    rw [← Option.some.inj h]
    exact spawned_set htask
  · exact absurd h (by simp)

/-! ### Which tasks have been joined -/

theorem joined_of_allJoined {s : JoinSet α} (h : s.AllJoined) {i : Nat} (hi : i < s.tasks.length) :
    s.joined i = true := by
  obtain ⟨outcome, hphase⟩ := h _ (List.getElem_mem hi)
  unfold joined
  rw [List.getElem?_eq_getElem hi, Option.any_some, hphase]
  rfl

theorem joined_empty (i : Nat) : (empty : JoinSet α).joined i = false := rfl

theorem joined_spawn (s : JoinSet α) (job : α) (i : Nat) : (s.spawn job).joined i = s.joined i := by
  unfold joined spawn
  rcases Nat.lt_trichotomy i s.tasks.length with hlt | heq | hgt
  · rw [List.getElem?_append_left hlt]
  · subst heq
    rw [List.getElem?_append_right (Nat.le_refl _), Nat.sub_self,
      List.getElem?_eq_none (Nat.le_refl _)]
    rfl
  · rw [List.getElem?_eq_none (by simpa using Nat.succ_le_of_lt hgt),
      List.getElem?_eq_none (Nat.le_of_lt hgt)]

theorem joined_abortAll (s : JoinSet α) (i : Nat) : s.abortAll.joined i = s.joined i := by
  unfold joined abortAll
  rw [List.getElem?_map, Option.any_map]
  congr 1
  funext task
  obtain ⟨job, phase⟩ := task
  cases phase <;> rfl

private theorem joined_set {s : JoinSet α} {i : Nat} {job : α} {phase phase' : TaskPhase}
    (h : s.tasks[i]? = some ⟨job, phase⟩) (j : Nat) :
    (JoinSet.mk (s.tasks.set i ⟨job, phase'⟩)).joined j
      = if j = i then phase'.isJoined else s.joined j := by
  obtain ⟨hi, -⟩ := List.getElem?_eq_some_iff.mp h
  unfold joined
  by_cases hj : j = i
  · subst hj
    rw [if_pos rfl, List.getElem?_set_self hi, Option.any_some]
  · rw [if_neg hj, List.getElem?_set_ne (fun hij => hj hij.symm)]

/-- A task that ends is not joined by that. -/
theorem joined_of_finish {s s' : JoinSet α} {i : Nat} {outcome : TaskOutcome}
    (h : s.finish i outcome = some s') (j : Nat) : s'.joined j = s.joined j := by
  have hset : ∀ {job : α} {phase : TaskPhase}, s.tasks[i]? = some ⟨job, phase⟩ →
      phase.isJoined = false →
        (JoinSet.mk (s.tasks.set i ⟨job, .ended outcome⟩)).joined j = s.joined j := by
    intro job phase htask hphase
    rw [joined_set htask j]
    by_cases hj : j = i
    · subst hj
      rw [if_pos rfl]
      unfold joined
      rw [htask, Option.any_some, hphase]
      rfl
    · rw [if_neg hj]
  unfold finish at h
  split at h
  · rename_i job htask
    split at h
    · exact absurd h (by simp)
    · rw [← Option.some.inj h]
      exact hset htask rfl
  · rename_i job htask
    rw [← Option.some.inj h]
    exact hset htask rfl
  · exact absurd h (by simp)

/-- **A join hands over one task that had not been handed over yet.** -/
theorem joined_of_joinNext {s s' : JoinSet α} {i : Nat} (h : s.joinNext i = some s') :
    s.joined i = false ∧ ∀ j, s'.joined j = if j = i then true else s.joined j := by
  unfold joinNext at h
  split at h
  · rename_i job outcome htask
    rw [← Option.some.inj h]
    refine ⟨?_, joined_set htask⟩
    unfold joined
    rw [htask, Option.any_some]
    rfl
  · exact absurd h (by simp)

/-- A set with nothing left to join stays so: no task of it can end. -/
theorem finish_of_allJoined {s : JoinSet α} (h : s.AllJoined) (i : Nat) (outcome : TaskOutcome) :
    s.finish i outcome = none := by
  unfold finish
  split
  · rename_i job htask
    obtain ⟨_, hjoined⟩ := h _ (List.mem_of_getElem? htask)
    exact absurd hjoined (by simp)
  · rename_i job htask
    obtain ⟨_, hjoined⟩ := h _ (List.mem_of_getElem? htask)
    exact absurd hjoined (by simp)
  · rfl

/-! ### How tasks end -/

/-- How the task at position `i` has ended, if it has. -/
def outcome (s : JoinSet α) (i : Nat) : Option TaskOutcome :=
  (s.tasks[i]?).bind fun task => task.phase.outcome

/-- The task at position `i` was cut short. -/
def cut (s : JoinSet α) (i : Nat) : Bool := (s.tasks[i]?).any fun task => task.phase.isAborted

theorem outcome_spawn (s : JoinSet α) (job : α) (i : Nat) :
    (s.spawn job).outcome i = s.outcome i := by
  unfold outcome
  rw [getElem?_spawn]
  by_cases h : i = s.tasks.length
  · rw [if_pos h, h, List.getElem?_eq_none (Nat.le_refl _)]
    rfl
  · rw [if_neg h]

theorem cut_spawn (s : JoinSet α) (job : α) (i : Nat) : (s.spawn job).cut i = s.cut i := by
  unfold cut
  rw [getElem?_spawn]
  by_cases h : i = s.tasks.length
  · rw [if_pos h, h, List.getElem?_eq_none (Nat.le_refl _)]
    rfl
  · rw [if_neg h]

theorem outcome_abortAll (s : JoinSet α) (i : Nat) : s.abortAll.outcome i = s.outcome i := by
  unfold outcome
  rw [getElem?_abortAll, Option.bind_map]
  congr 1
  funext task
  cases hphase : task.phase <;> simp [TaskPhase.outcome, hphase]

theorem outcome_of_joinNext {s s' : JoinSet α} {i : Nat} (h : s.joinNext i = some s') (j : Nat) :
    s'.outcome j = s.outcome j := by
  obtain ⟨job, outcome, hended, hget⟩ := getElem?_of_joinNext h
  unfold JoinSet.outcome
  rw [hget j]
  by_cases hj : j = i
  · rw [if_pos hj, hj, hended]
    rfl
  · rw [if_neg hj]

theorem cut_of_joinNext {s s' : JoinSet α} {i : Nat} (h : s.joinNext i = some s') (j : Nat) :
    s'.cut j = s.cut j := by
  obtain ⟨job, outcome, hended, hget⟩ := getElem?_of_joinNext h
  unfold cut
  rw [hget j]
  by_cases hj : j = i
  · rw [if_pos hj, hj, hended]
    rfl
  · rw [if_neg hj]

/-- A task ends once, and only one that was asked to abort is cut short by its end. -/
theorem outcome_of_finish {s s' : JoinSet α} {i : Nat} {outcome : TaskOutcome}
    (h : s.finish i outcome = some s') (j : Nat) :
    s'.outcome j = (if j = i then some outcome else s.outcome j) ∧
      (j = i → s.outcome j = none) ∧ (s'.cut j = true → s.cut j = true) := by
  obtain ⟨task, hbefore, hphase, hget⟩ := getElem?_of_finish h
  unfold JoinSet.outcome cut
  rw [hget j]
  by_cases hj : j = i
  · rw [if_pos hj, if_pos hj, hj, hbefore]
    refine ⟨rfl, fun _ => ?_, fun hcut => ?_⟩
    · rcases hphase with ⟨hran, -⟩ | haborting
      · simp [hran, TaskPhase.outcome]
      · simp [haborting, TaskPhase.outcome]
    · rcases hphase with ⟨-, hcancelled⟩ | haborting
      · exact absurd hcut (by simpa [TaskPhase.isAborted] using hcancelled)
      · simp [haborting, TaskPhase.isAborted]
  · rw [if_neg hj, if_neg hj]
    exact ⟨rfl, fun heq => absurd heq hj, id⟩

/-- No task is left that was not asked to abort. -/
def NoneRunning (s : JoinSet α) : Prop := ∀ task ∈ s.tasks, task.phase ≠ .running

theorem noneRunning_abortAll (s : JoinSet α) : s.abortAll.NoneRunning := by
  intro task htask
  obtain ⟨before, -, rfl⟩ := List.mem_map.mp htask
  by_cases h : before.phase = .running
  · simp [h]
  · simp [h]

theorem NoneRunning.finish {s s' : JoinSet α} (hs : s.NoneRunning) {i : Nat}
    {outcome : TaskOutcome} (h : s.finish i outcome = some s') : s'.NoneRunning := by
  obtain ⟨before, hbefore, -, hget⟩ := getElem?_of_finish h
  intro task htask
  obtain ⟨j, hj⟩ := List.mem_iff_getElem?.mp htask
  rw [hget j] at hj
  by_cases hij : j = i
  · rw [if_pos hij, Option.some.injEq] at hj
    simp [← hj]
  · rw [if_neg hij] at hj
    exact hs task (List.mem_of_getElem? hj)

theorem NoneRunning.joinNext {s s' : JoinSet α} (hs : s.NoneRunning) {i : Nat}
    (h : s.joinNext i = some s') : s'.NoneRunning := by
  obtain ⟨job, outcome, -, hget⟩ := getElem?_of_joinNext h
  intro task htask
  obtain ⟨j, hj⟩ := List.mem_iff_getElem?.mp htask
  rw [hget j] at hj
  by_cases hij : j = i
  · rw [if_pos hij, Option.some.injEq] at hj
    simp [← hj]
  · rw [if_neg hij] at hj
    exact hs task (List.mem_of_getElem? hj)

/-! ### How many steps are left -/

def stepsLeftOf : List (SpawnedTask α) → Nat
  | [] => 0
  | task :: rest => task.phase.stepsLeft + stepsLeftOf rest

def stepsLeft (s : JoinSet α) : Nat := stepsLeftOf s.tasks

private theorem stepsLeft_set {before after : SpawnedTask α}
    (hless : after.phase.stepsLeft + 1 = before.phase.stepsLeft) (tasks : List (SpawnedTask α)) :
    ∀ i, tasks[i]? = some before → stepsLeftOf (tasks.set i after) + 1 = stepsLeftOf tasks := by
  induction tasks with
  | nil =>
      intro i h
      exact absurd h (by simp)
  | cons task rest ih =>
      intro i h
      cases i with
      | zero =>
          rw [List.getElem?_cons_zero, Option.some.injEq] at h
          rw [List.set_cons_zero, stepsLeftOf, stepsLeftOf, h]
          omega
      | succ i =>
          have hrest := ih i (by simpa using h)
          rw [List.set_cons_succ, stepsLeftOf, stepsLeftOf]
          omega

/-- **A task that ends, or is joined, has one step less to take.** -/
theorem stepsLeft_of_finish {s s' : JoinSet α} {i : Nat} {outcome : TaskOutcome}
    (h : s.finish i outcome = some s') : s'.stepsLeft + 1 = s.stepsLeft := by
  obtain ⟨task, htask, hphase, hset⟩ := tasks_of_finish h
  have hless : (TaskPhase.ended outcome).stepsLeft + 1 = task.phase.stepsLeft := by
    rcases hphase with ⟨hran, -⟩ | haborting
    · rw [hran]
      rfl
    · rw [haborting]
      rfl
  unfold stepsLeft
  rw [hset]
  exact stepsLeft_set hless s.tasks i htask

theorem stepsLeft_of_joinNext {s s' : JoinSet α} {i : Nat} (h : s.joinNext i = some s') :
    s'.stepsLeft + 1 = s.stepsLeft := by
  obtain ⟨job, outcome, htask, hset⟩ := tasks_of_joinNext h
  unfold stepsLeft
  rw [hset]
  exact stepsLeft_set rfl s.tasks i htask

theorem stepsLeft_abortAll (s : JoinSet α) : s.abortAll.stepsLeft = s.stepsLeft := by
  unfold stepsLeft abortAll
  induction s.tasks with
  | nil => rfl
  | cons task rest ih =>
      rw [List.map_cons, stepsLeftOf, stepsLeftOf, ih]
      cases task.phase <;> simp [TaskPhase.stepsLeft]

theorem stepsLeft_le (s : JoinSet α) : s.stepsLeft ≤ 2 * s.tasks.length := by
  unfold stepsLeft
  induction s.tasks with
  | nil => exact Nat.zero_le _
  | cons task rest ih =>
      have hone : task.phase.stepsLeft ≤ 2 := by
        cases task.phase <;> simp [TaskPhase.stepsLeft]
      rw [stepsLeftOf, List.length_cons]
      omega

end JoinSet
