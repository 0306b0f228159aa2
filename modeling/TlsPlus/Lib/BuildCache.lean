/-
A cache that its callers fill, with the building done outside the lock.

A call maps its request to a key and looks the key up under the lock.  On a miss
it builds a value with the lock released, then takes the lock again and files the
value unless another call was faster, in which case it returns that call's value.
Between a call's three parts any other call may run, so several builders of one
key can be in flight at once.

Whatever building guarantees about the value built for a key holds, in every
interleaving, of every value the cache holds and of every value a call returns:
that is `Sound`, and `sound_of_run`.  The guarantee must be one about the key and
not about the request, since a call can be served what another request built.

A filed value is there to stay, and a call returns only what is filed: so the calls
of one key that return a value return the same one (`eq_of_returned`), whichever of
several builders was the fastest.
-/
import Mathlib.Data.List.AList
import TlsPlus.Lib.Machine

namespace BuildCache

/-- How requests are keyed and values are built.  `outcome` is what the outside world
contributes to one build. -/
structure Protocol (Request Key Value Error Outcome : Type) where
  key : Request → Key
  build : Request → Outcome → Except Error Value

/-- How far a call has got. -/
inductive Phase (Value Error : Type) where
  | called
  | missed
  | built (value : Value)
  | done (result : Except Error Value)
deriving DecidableEq, Repr

structure Call (Request Value Error : Type) where
  request : Request
  phase : Phase Value Error
deriving DecidableEq, Repr

structure State (Request Key Value Error : Type) where
  cache : AList fun _ : Key => Value
  calls : List (Call Request Value Error)

/-- One atomic part of a call.  Parts after the first name the call by its position;
taking the lock can fail. -/
inductive Event (Request Error Outcome : Type) where
  | call (request : Request)
  | read (call : Nat) (lock : Except Error Unit)
  | build (call : Nat) (outcome : Outcome)
  | insert (call : Nat) (lock : Except Error Unit)

variable {Request Key Value Error Outcome : Type}

def State.init : State Request Key Value Error := ⟨∅, []⟩

/-- Moves one call to another phase. -/
def State.setPhase (s : State Request Key Value Error) (call : Nat) (request : Request)
    (phase : Phase Value Error) : State Request Key Value Error :=
  { s with calls := s.calls.set call ⟨request, phase⟩ }

variable [DecidableEq Key]

/-- The locked read: a hit is returned at once. -/
def readCache (cache : AList fun _ : Key => Value) (key : Key) (lock : Except Error Unit) :
    Phase Value Error :=
  match lock with
  | .error e => .done (.error e)
  | .ok () =>
    match cache.lookup key with
    | some value => .done (.ok value)
    | none => .missed

/-- The locked entry-or-insert: the value found or filed, and the cache after it. -/
def orInsert (cache : AList fun _ : Key => Value) (key : Key) (value : Value) :
    Value × AList fun _ : Key => Value :=
  match cache.lookup key with
  | some found => (found, cache)
  | none => (value, cache.insert key value)

/-- The calls of a protocol, one atomic part at a time. -/
def Protocol.machine (p : Protocol Request Key Value Error Outcome) :
    Machine (State Request Key Value Error) (Event Request Error Outcome) where
  step s event :=
    match event with
    | .call request => some { s with calls := s.calls ++ [⟨request, .called⟩] }
    | .read i lock =>
      match s.calls[i]? with
      | some ⟨request, .called⟩ =>
        some (s.setPhase i request (readCache s.cache (p.key request) lock))
      | _ => none
    | .build i outcome =>
      match s.calls[i]? with
      | some ⟨request, .missed⟩ =>
        match p.build request outcome with
        | .error e => some (s.setPhase i request (.done (.error e)))
        | .ok value => some (s.setPhase i request (.built value))
      | _ => none
    | .insert i lock =>
      match s.calls[i]? with
      | some ⟨request, .built value⟩ =>
        match lock with
        | .error e => some (s.setPhase i request (.done (.error e)))
        | .ok () =>
          let (found, cache) := orInsert s.cache (p.key request) value
          some { s.setPhase i request (.done (.ok found)) with cache := cache }
      | _ => none

/-! ### What one part of a call can do -/

/-- The move of one call of `request`, with the cache before and after. -/
inductive Move (p : Protocol Request Key Value Error Outcome) (request : Request) :
    (AList fun _ : Key => Value) → Phase Value Error →
      (AList fun _ : Key => Value) → Phase Value Error → Prop
  | hit {cache value} (h : cache.lookup (p.key request) = some value) :
      Move p request cache .called cache (.done (.ok value))
  | miss {cache} (h : cache.lookup (p.key request) = none) :
      Move p request cache .called cache .missed
  | built {cache outcome value} (h : p.build request outcome = .ok value) :
      Move p request cache .missed cache (.built value)
  | overtaken {cache value found} (h : cache.lookup (p.key request) = some found) :
      Move p request cache (.built value) cache (.done (.ok found))
  | filed {cache value} (h : cache.lookup (p.key request) = none) :
      Move p request cache (.built value) (cache.insert (p.key request) value) (.done (.ok value))
  | failed {cache phase error} : Move p request cache phase cache (.done (.error error))

theorem step_cases {p : Protocol Request Key Value Error Outcome}
    {s s' : State Request Key Value Error} {event : Event Request Error Outcome}
    (h : p.machine.step s event = some s') :
    (∃ request, s' = { s with calls := s.calls ++ [⟨request, .called⟩] }) ∨
    (∃ i request before after cache, s.calls[i]? = some ⟨request, before⟩ ∧
      Move p request s.cache before cache after ∧
      s' = ⟨cache, s.calls.set i ⟨request, after⟩⟩) := by
  cases event with
  | call request => exact Or.inl ⟨request, by simpa [Protocol.machine] using h.symm⟩
  | read i lock =>
      refine Or.inr ?_
      simp only [Protocol.machine] at h
      split at h
      · rename_i request hcall
        rw [Option.some.injEq] at h
        refine ⟨i, request, .called, _, s.cache, hcall, ?_, h.symm⟩
        unfold readCache
        cases lock with
        | error e => exact .failed
        | ok _ =>
            cases hlook : s.cache.lookup (p.key request) with
            | none => exact .miss hlook
            | some value => exact .hit hlook
      · cases h
  | build i outcome =>
      refine Or.inr ?_
      simp only [Protocol.machine] at h
      split at h
      · rename_i request hcall
        split at h
        · rw [Option.some.injEq] at h
          exact ⟨i, request, .missed, _, s.cache, hcall, .failed, h.symm⟩
        · rename_i value hbuild
          rw [Option.some.injEq] at h
          exact ⟨i, request, .missed, _, s.cache, hcall, .built hbuild, h.symm⟩
      · cases h
  | insert i lock =>
      refine Or.inr ?_
      simp only [Protocol.machine] at h
      split at h
      · rename_i request value hcall
        cases lock with
        | error e =>
            rw [Option.some.injEq] at h
            exact ⟨i, request, .built value, _, s.cache, hcall, .failed, h.symm⟩
        | ok _ =>
            rw [Option.some.injEq] at h
            refine ⟨i, request, .built value, _, _, hcall, ?_, h.symm⟩
            unfold orInsert
            cases hlook : s.cache.lookup (p.key request) with
            | none => exact .filed hlook
            | some found => exact .overtaken hlook
      · cases h

/-! ### Soundness -/

/-- Every value in the cache, built or returned is good for the key it goes with. -/
structure Sound (p : Protocol Request Key Value Error Outcome) (Good : Key → Value → Prop)
    (s : State Request Key Value Error) : Prop where
  cached : ∀ key value, s.cache.lookup key = some value → Good key value
  built : ∀ call ∈ s.calls, ∀ value, call.phase = .built value →
    Good (p.key call.request) value
  returned : ∀ call ∈ s.calls, ∀ value, call.phase = .done (.ok value) →
    Good (p.key call.request) value

variable {p : Protocol Request Key Value Error Outcome} {Good : Key → Value → Prop}

theorem sound_init : Sound p Good State.init :=
  ⟨by simp [State.init], by simp [State.init], by simp [State.init]⟩

/-- A move files and returns good values only, given good values to start from. -/
theorem Move.good {request : Request} {cache cache' : AList fun _ : Key => Value}
    {before after : Phase Value Error} (hmove : Move p request cache before cache' after)
    (hbuild : ∀ r outcome value, p.build r outcome = .ok value → Good (p.key r) value)
    (hcache : ∀ key value, cache.lookup key = some value → Good key value)
    (hbefore : ∀ value, before = .built value → Good (p.key request) value) :
    (∀ key value, cache'.lookup key = some value → Good key value) ∧
      ∀ value, after = .built value ∨ after = .done (.ok value) →
        Good (p.key request) value := by
  cases hmove with
  | hit h => exact ⟨hcache, by rintro v (hv | hv) <;> cases hv; exact hcache _ _ h⟩
  | miss h => exact ⟨hcache, by rintro v (hv | hv) <;> cases hv⟩
  | built h => exact ⟨hcache, by rintro v (hv | hv) <;> cases hv; exact hbuild _ _ _ h⟩
  | overtaken h => exact ⟨hcache, by rintro v (hv | hv) <;> cases hv; exact hcache _ _ h⟩
  | @filed value h =>
      have hvalue := hbefore value rfl
      refine ⟨fun key v hlook => ?_, by rintro v (hv | hv) <;> cases hv; exact hvalue⟩
      by_cases hkey : key = p.key request
      · subst hkey
        rw [AList.lookup_insert, Option.some.injEq] at hlook
        exact hlook ▸ hvalue
      · rw [AList.lookup_insert_ne hkey] at hlook
        exact hcache key v hlook
  | failed => exact ⟨hcache, by rintro v (hv | hv) <;> cases hv⟩

theorem sound_step
    (hbuild : ∀ r outcome value, p.build r outcome = .ok value → Good (p.key r) value)
    (s : State Request Key Value Error) (event : Event Request Error Outcome)
    (s' : State Request Key Value Error) (hs : Sound p Good s)
    (h : p.machine.step s event = some s') : Sound p Good s' := by
  rcases step_cases h with ⟨request, rfl⟩ | ⟨i, request, before, after, cache, hcall, hmove, rfl⟩
  · refine ⟨hs.cached, ?_, ?_⟩
    · intro call hmem value hphase
      rcases List.mem_append.mp hmem with hold | hnew
      · exact hs.built call hold value hphase
      · rw [List.mem_singleton] at hnew
        subst hnew
        cases hphase
    · intro call hmem value hphase
      rcases List.mem_append.mp hmem with hold | hnew
      · exact hs.returned call hold value hphase
      · rw [List.mem_singleton] at hnew
        subst hnew
        cases hphase
  · have hin : (⟨request, before⟩ : Call Request Value Error) ∈ s.calls :=
      List.mem_of_getElem? hcall
    obtain ⟨hcache, hafter⟩ := hmove.good hbuild hs.cached
      (fun value hv => hs.built _ hin value hv)
    refine ⟨hcache, ?_, ?_⟩
    · intro call hmem value hphase
      rcases List.mem_or_eq_of_mem_set hmem with hold | rfl
      · exact hs.built call hold value hphase
      · exact hafter value (Or.inl hphase)
    · intro call hmem value hphase
      rcases List.mem_or_eq_of_mem_set hmem with hold | rfl
      · exact hs.returned call hold value hphase
      · exact hafter value (Or.inr hphase)

/-- **Every interleaving returns good values.**  What a build guarantees for its key holds
of whatever value a call of that key comes back with. -/
theorem sound_of_run
    (hbuild : ∀ r outcome value, p.build r outcome = .ok value → Good (p.key r) value)
    {events : List (Event Request Error Outcome)} {s : State Request Key Value Error}
    (hrun : p.machine.run State.init events = some s) : Sound p Good s :=
  Machine.run_invariant (sound_step hbuild) sound_init hrun

/-! ### Coherence -/

/-- What is filed in the first cache is filed in the second, under the same key. -/
def Extends (cache cache' : AList fun _ : Key => Value) : Prop :=
  ∀ key value, cache.lookup key = some value → cache'.lookup key = some value

theorem Extends.refl (cache : AList fun _ : Key => Value) : Extends cache cache :=
  fun _ _ h => h

theorem Extends.trans {a b c : AList fun _ : Key => Value} (hab : Extends a b)
    (hbc : Extends b c) : Extends a c :=
  fun key value h => hbc key value (hab key value h)

/-- A move leaves what is filed alone, and returns only what is filed by then. -/
theorem Move.coherent {request : Request} {cache cache' : AList fun _ : Key => Value}
    {before after : Phase Value Error} (hmove : Move p request cache before cache' after) :
    Extends cache cache' ∧
      ∀ value, after = .done (.ok value) → cache'.lookup (p.key request) = some value := by
  cases hmove with
  | hit h => exact ⟨.refl _, by rintro v hv; cases hv; exact h⟩
  | miss h => exact ⟨.refl _, by rintro v hv; cases hv⟩
  | built h => exact ⟨.refl _, by rintro v hv; cases hv⟩
  | overtaken h => exact ⟨.refl _, by rintro v hv; cases hv; exact h⟩
  | filed h =>
      refine ⟨fun key value hlook => ?_, by rintro v hv; cases hv; exact AList.lookup_insert _⟩
      have hne : key ≠ p.key request := by
        intro hkey
        rw [hkey, h] at hlook
        exact absurd hlook (by simp)
      rw [AList.lookup_insert_ne hne]
      exact hlook
  | failed => exact ⟨.refl _, by rintro v hv; cases hv⟩

theorem extends_step {s s' : State Request Key Value Error} {event : Event Request Error Outcome}
    (h : p.machine.step s event = some s') : Extends s.cache s'.cache := by
  rcases step_cases h with ⟨request, rfl⟩ | ⟨i, request, before, after, cache, -, hmove, rfl⟩
  · exact .refl _
  · exact hmove.coherent.1

/-- **A filed value is never replaced or removed.** -/
theorem extends_of_run {events : List (Event Request Error Outcome)}
    {s s' : State Request Key Value Error} (hrun : p.machine.run s events = some s') :
    Extends s.cache s'.cache :=
  Machine.run_related (R := fun s s' : State Request Key Value Error => Extends s.cache s'.cache)
    (fun s => .refl s.cache) (fun _ _ _ hab hbc => hab.trans hbc)
    (fun _ _ _ h => extends_step h) hrun

/-- A call has only returned what is filed under its key. -/
def Coherent (p : Protocol Request Key Value Error Outcome)
    (s : State Request Key Value Error) : Prop :=
  ∀ call ∈ s.calls, ∀ value, call.phase = .done (.ok value) →
    s.cache.lookup (p.key call.request) = some value

theorem coherent_step (s : State Request Key Value Error) (event : Event Request Error Outcome)
    (s' : State Request Key Value Error) (hs : Coherent p s)
    (h : p.machine.step s event = some s') : Coherent p s' := by
  have hextends := extends_step h
  rcases step_cases h with ⟨request, rfl⟩ | ⟨i, request, before, after, cache, -, hmove, rfl⟩
  · intro call hmem value hphase
    rcases List.mem_append.mp hmem with hold | hnew
    · exact hs call hold value hphase
    · rw [List.mem_singleton] at hnew
      subst hnew
      cases hphase
  · intro call hmem value hphase
    rcases List.mem_or_eq_of_mem_set hmem with hold | rfl
    · exact hextends _ _ (hs call hold value hphase)
    · exact hmove.coherent.2 value hphase

/-- **Calls of one key that return a value return the same one.** -/
theorem eq_of_returned {events : List (Event Request Error Outcome)}
    {s : State Request Key Value Error} (hrun : p.machine.run State.init events = some s)
    {call other : Call Request Value Error} (hcall : call ∈ s.calls) (hother : other ∈ s.calls)
    {value value' : Value} (hvalue : call.phase = .done (.ok value))
    (hvalue' : other.phase = .done (.ok value'))
    (hkey : p.key call.request = p.key other.request) : value = value' := by
  have hinit : Coherent p (State.init : State Request Key Value Error) := by
    intro call hmem
    exact absurd hmem List.not_mem_nil
  have hcoherent : Coherent p s := Machine.run_invariant coherent_step hinit hrun
  have hfiled := hcoherent call hcall value hvalue
  rw [hkey, hcoherent other hother value' hvalue'] at hfiled
  exact (Option.some.inj hfiled).symm

/-- A call that comes to fail has filed nothing. -/
theorem cache_of_failed {s s' : State Request Key Value Error}
    {event : Event Request Error Outcome} (h : p.machine.step s event = some s') {i : Nat}
    {call call' : Call Request Value Error} {error : Error} (hcall : s.calls[i]? = some call)
    (hcall' : s'.calls[i]? = some call') (hgoes : ∀ e, call.phase ≠ .done (.error e))
    (hfails : call'.phase = .done (.error error)) : s'.cache = s.cache := by
  rcases step_cases h with ⟨request, rfl⟩ | ⟨j, request, before, after, cache, hj, hmove, rfl⟩
  · rfl
  · obtain ⟨hlt, -⟩ := List.getElem?_eq_some_iff.mp hj
    by_cases hij : j = i
    · subst hij
      rw [List.getElem?_set_self hlt, Option.some.injEq] at hcall'
      subst hcall'
      have hafter : after = .done (.error error) := hfails
      subst hafter
      cases hmove with
      | failed => rfl
    · have hsame : s.calls[i]? = some call' := by
        rwa [List.getElem?_set_ne hij] at hcall'
      rw [hcall, Option.some.injEq] at hsame
      exact absurd hfails (hsame ▸ hgoes error)

end BuildCache
