/-
State machines that react to events, and what holds along their runs.

`Machine.step` is partial: an event that is not enabled in a state has no
successor there.  All nondeterminism (which party moves next, what the outside
world answers) is in the event, so an interleaving is a list of events and
"for every interleaving" is a quantifier over lists.

Five rules carry every result about runs: an invariant kept by each step holds
at the end of a run (`run_invariant`), also if it speaks of the events that led
there (`run_history`) or of what was given out on the way (`run_emits`); a property
that only some steps keep holds all along a run whose steps are of that kind
(`along_iff_meets`); a reflexive and transitive relation kept by each step relates
the two ends (`run_related`); and a machine that is simulated step by step is
simulated run by run (`Simulation.run`).  A machine put together from others runs
each of them (`run_component`), and a rank bounds how long it can run (`run_rank`).
-/
import Mathlib.Order.Defs.Unbundled

/-- States, events, and the successor of a state under an event, if enabled. -/
structure Machine (S E : Type*) where
  step : S → E → Option S

namespace Machine

variable {S E : Type*} (M : Machine S E)

/-- The state after a sequence of events, all of which must be enabled. -/
def run : S → List E → Option S
  | s, [] => some s
  | s, e :: rest => (M.step s e).bind fun s' => run s' rest

@[simp] theorem run_nil (s : S) : M.run s [] = some s := rfl

theorem run_cons_eq_some {s t : S} {e : E} {rest : List E} :
    M.run s (e :: rest) = some t ↔ ∃ s', M.step s e = some s' ∧ M.run s' rest = some t := by
  simp [run, Option.bind_eq_some_iff]

theorem run_append (es fs : List E) :
    ∀ s : S, M.run s (es ++ fs) = (M.run s es).bind fun t => M.run t fs := by
  induction es with
  | nil => intro s; rfl
  | cons e rest ih =>
      intro s
      rw [List.cons_append, run, run, Option.bind_assoc]
      congr 1
      funext s'
      exact ih s'

variable {M}

theorem run_snoc {s t u : S} {es : List E} {e : E} (hrun : M.run s es = some t)
    (hstep : M.step t e = some u) : M.run s (es ++ [e]) = some u := by
  rw [run_append, hrun, Option.bind_some, run_cons_eq_some]
  exact ⟨u, hstep, rfl⟩

/-- **A property kept by the steps of a run holds at its end.**  `Q` is what the run's
events are known to satisfy. -/
theorem run_invariant_of {P : S → Prop} {Q : E → Prop}
    (hstep : ∀ s e s', P s → Q e → M.step s e = some s' → P s') :
    ∀ {es : List E} {s t : S}, (∀ e ∈ es, Q e) → P s → M.run s es = some t → P t := by
  intro es
  induction es with
  | nil =>
      intro s t _ hs hrun
      rw [run_nil, Option.some.injEq] at hrun
      exact hrun ▸ hs
  | cons e rest ih =>
      intro s t hQ hs hrun
      obtain ⟨s', he, hrest⟩ := (run_cons_eq_some M).mp hrun
      exact ih (fun e' he' => hQ e' (by simp [he']))
        (hstep s e s' hs (hQ e (by simp)) he) hrest

theorem run_invariant {P : S → Prop} (hstep : ∀ s e s', P s → M.step s e = some s' → P s')
    {es : List E} {s t : S} (hs : P s) (hrun : M.run s es = some t) : P t :=
  run_invariant_of (Q := fun _ => True) (fun s e s' h _ => hstep s e s' h) (by simp) hs hrun

/-- **What relates each state to its successors relates the ends of a run.** -/
theorem run_related {R : S → S → Prop} (hrefl : ∀ s, R s s)
    (htrans : ∀ s t u, R s t → R t u → R s u)
    (hstep : ∀ s e s', M.step s e = some s' → R s s')
    {es : List E} {s t : S} (hrun : M.run s es = some t) : R s t :=
  run_invariant (P := R s) (fun u e u' hu he => htrans s u u' hu (hstep u e u' he)) (hrefl s) hrun

/-! ### Conditions on the steps of a run

A property of states that can be lost is kept by a run exactly if every step of it
is taken under the condition that keeps it.
-/

/-- `P` holds in every state the run comes to. -/
def Along (M : Machine S E) (P : S → Prop) : S → List E → Prop
  | s, [] => P s
  | s, e :: rest => P s ∧ ∀ s', M.step s e = some s' → M.Along P s' rest

/-- Every step of the run is taken under `C`, a condition on the state before it. -/
def Meets (M : Machine S E) (C : S → E → Prop) : S → List E → Prop
  | _, [] => True
  | s, e :: rest => C s e ∧ ∀ s', M.step s e = some s' → M.Meets C s' rest

theorem Along.start {P : S → Prop} {s : S} {es : List E} (h : M.Along P s es) : P s := by
  cases es with
  | nil => exact h
  | cons e rest => exact h.1

theorem Along.last {P : S → Prop} :
    ∀ {es : List E} {s t : S}, M.Along P s es → M.run s es = some t → P t := by
  intro es
  induction es with
  | nil =>
      intro s t h hrun
      rw [run_nil, Option.some.injEq] at hrun
      exact hrun ▸ h
  | cons e rest ih =>
      intro s t h hrun
      obtain ⟨s', he, hrest⟩ := (run_cons_eq_some M).mp hrun
      exact ih (h.2 s' he) hrest

theorem Meets.cons {C : S → E → Prop} {s s' : S} {e : E} {rest : List E} (hC : C s e)
    (he : M.step s e = some s') (hrest : M.Meets C s' rest) : M.Meets C s (e :: rest) := by
  refine ⟨hC, fun u hu => ?_⟩
  rw [Option.some.inj (hu.symm.trans he)]
  exact hrest

theorem Along.cons {P : S → Prop} {s s' : S} {e : E} {rest : List E} (hs : P s)
    (he : M.step s e = some s') (hrest : M.Along P s' rest) : M.Along P s (e :: rest) := by
  refine ⟨hs, fun u hu => ?_⟩
  rw [Option.some.inj (hu.symm.trans he)]
  exact hrest

theorem meets_of_forall {C : S → E → Prop} :
    ∀ {es : List E} (s : S), (∀ u, ∀ e ∈ es, C u e) → M.Meets C s es := by
  intro es
  induction es with
  | nil => exact fun _ _ => trivial
  | cons e rest ih =>
      intro s hC
      exact ⟨hC s e (by simp), fun s' _ => ih s' fun u e' he' => hC u e' (by simp [he'])⟩

/-- **A property of a state and of the events that led to it**, kept by each further event that
meets `C`, holds at the end of a run whose steps all do. -/
theorem run_history_meets {P : List E → S → Prop} {C : S → E → Prop} {s : S}
    (hstep : ∀ past u e u', P past u → C u e → M.step u e = some u' → P (past ++ [e]) u')
    {es : List E} {t : S} (hmeets : M.Meets C s es) (hinit : P [] s)
    (hrun : M.run s es = some t) : P es t := by
  have hgeneral : ∀ (es past : List E) (u : S), M.Meets C u es → P past u →
      M.run u es = some t → P (past ++ es) t := by
    intro es
    induction es with
    | nil =>
        intro past u _ hu hrun
        rw [run_nil, Option.some.injEq] at hrun
        rw [List.append_nil]
        exact hrun ▸ hu
    | cons e rest ih =>
        intro past u hmeets hu hrun
        obtain ⟨u', he, hrest⟩ := (run_cons_eq_some M).mp hrun
        have hend := ih (past ++ [e]) u' (hmeets.2 u' he) (hstep past u e u' hu hmeets.1 he) hrest
        rwa [List.append_assoc, List.singleton_append] at hend
  exact hgeneral es [] s hmeets hinit hrun

theorem run_history {P : List E → S → Prop} {s : S} (hinit : P [] s)
    (hstep : ∀ past u e u', P past u → M.step u e = some u' → P (past ++ [e]) u')
    {es : List E} {t : S} (hrun : M.run s es = some t) : P es t :=
  run_history_meets (C := fun _ _ => True) (fun past u e u' hu _ => hstep past u e u' hu)
    (meets_of_forall s fun _ _ _ => trivial) hinit hrun

/-- **A property is kept along a run exactly if each step meets the condition of keeping it.** -/
theorem along_iff_meets {P : S → Prop} {C : S → E → Prop}
    (hstep : ∀ s e s', P s → M.step s e = some s' → (P s' ↔ C s e)) :
    ∀ {es : List E} {s t : S}, P s → M.run s es = some t →
      (M.Along P s es ↔ M.Meets C s es) := by
  intro es
  induction es with
  | nil => exact fun hs _ => ⟨fun _ => trivial, fun _ => hs⟩
  | cons e rest ih =>
      intro s t hs hrun
      obtain ⟨s', he, hrest⟩ := (run_cons_eq_some M).mp hrun
      have hone : P s' ↔ C s e := hstep s e s' hs he
      constructor
      · intro halong
        have hs' : P s' := (halong.2 s' he).start
        exact .cons (hone.mp hs') he ((ih hs' hrest).mp (halong.2 s' he))
      · intro hmeets
        have hs' : P s' := hone.mpr hmeets.1
        refine ⟨hs, fun u hu => ?_⟩
        rw [Option.some.inj (hu.symm.trans he)]
        exact (ih hs' hrest).mpr (hmeets.2 s' he)

/-! ### Simulation -/

/-- Every step of `M` on an event that satisfies `Q` is matched by a step of `N`. -/
structure Simulation {T : Type*} (M : Machine S E) (N : Machine T E) (Q : E → Prop)
    (rel : S → T → Prop) : Prop where
  step : ∀ {s t e s'}, rel s t → Q e → M.step s e = some s' →
    ∃ t', N.step t e = some t' ∧ rel s' t'

theorem Simulation.run {T : Type*} {N : Machine T E} {Q : E → Prop} {rel : S → T → Prop}
    (sim : Simulation M N Q rel) :
    ∀ {es : List E} {s s' : S} {t : T}, (∀ e ∈ es, Q e) → rel s t → M.run s es = some s' →
      ∃ t', N.run t es = some t' ∧ rel s' t' := by
  intro es
  induction es with
  | nil =>
      intro s s' t _ hrel hrun
      rw [run_nil, Option.some.injEq] at hrun
      exact ⟨t, rfl, hrun ▸ hrel⟩
  | cons e rest ih =>
      intro s s' t hQ hrel hrun
      obtain ⟨u, he, hrest⟩ := (run_cons_eq_some M).mp hrun
      obtain ⟨v, hv, huv⟩ := sim.step hrel (hQ e (by simp)) he
      obtain ⟨t', ht', hend⟩ := ih (fun e' he' => hQ e' (by simp [he'])) huv hrest
      exact ⟨t', (run_cons_eq_some N).mpr ⟨v, hv, ht'⟩, hend⟩

/-- **A rank bounds the steps of a run.** `rank` is lowered by every event that counts and raised by
none, as long as `P` holds. -/
theorem run_rank {P : S → Prop} {rank : S → Nat} {counts : E → Bool}
    (hkeep : ∀ s e s', P s → M.step s e = some s' → P s')
    (hstep : ∀ s e s', P s → M.step s e = some s' →
      rank s' ≤ rank s ∧ (counts e = true → rank s' < rank s)) :
    ∀ {es : List E} {s t : S}, P s → M.run s es = some t →
      es.countP counts + rank t ≤ rank s := by
  intro es
  induction es with
  | nil =>
      intro s t _ hrun
      rw [run_nil, Option.some.injEq] at hrun
      simp [hrun]
  | cons e rest ih =>
      intro s t hs hrun
      obtain ⟨s', he, hrest⟩ := (run_cons_eq_some M).mp hrun
      have hbound := ih (hkeep s e s' hs he) hrest
      obtain ⟨hle, hlt⟩ := hstep s e s' hs he
      by_cases hcounts : counts e = true
      · have hless := hlt hcounts
        rw [List.countP_cons_of_pos hcounts]
        omega
      · rw [List.countP_cons_of_neg hcounts]
        omega

/-! ### What a run gives out -/

variable {O : Type*} {out : S → E → Option O}

/-- What the steps of a run give out, in order. -/
def emits (M : Machine S E) (out : S → E → Option O) : S → List E → List O
  | _, [] => []
  | s, e :: rest => (out s e).toList ++ ((M.step s e).map fun s' => M.emits out s' rest).getD []

theorem emits_cons {s s' : S} {e : E} {rest : List E} (he : M.step s e = some s') :
    M.emits out s (e :: rest) = (out s e).toList ++ M.emits out s' rest := by
  rw [emits, he]
  rfl

/-- What a run gave out was given out by one of its steps. -/
theorem exists_step_of_mem_emits {o : O} :
    ∀ {es : List E} {s t : S}, M.run s es = some t → o ∈ M.emits out s es →
      ∃ before e after u u', es = before ++ e :: after ∧ M.run s before = some u ∧
        M.step u e = some u' ∧ out u e = some o := by
  intro es
  induction es with
  | nil => exact fun _ ho => absurd ho List.not_mem_nil
  | cons e rest ih =>
      intro s t hrun ho
      obtain ⟨s', he, hrest⟩ := (run_cons_eq_some M).mp hrun
      rw [emits_cons he] at ho
      rcases List.mem_append.mp ho with hnow | hlater
      · exact ⟨[], e, rest, s, s', rfl, rfl, he, Option.mem_toList.mp hnow⟩
      · obtain ⟨before, f, after, u, u', hes, hbefore, hstep, hout⟩ := ih hrest hlater
        refine ⟨e :: before, f, after, u, u', by rw [hes, List.cons_append], ?_, hstep, hout⟩
        exact (run_cons_eq_some M).mpr ⟨s', he, hbefore⟩

/-- **A property of a state and of what was given out so far**, kept by each step that meets `C`,
holds at the end of a run whose steps all do. -/
theorem run_emits {P : List O → S → Prop} {C : S → E → Prop}
    (hstep : ∀ given s e s', P given s → C s e → M.step s e = some s' →
      P (given ++ (out s e).toList) s')
    {es : List E} {s t : S} (hmeets : M.Meets C s es) (hs : P [] s) (hrun : M.run s es = some t) :
    P (M.emits out s es) t := by
  have hgeneral : ∀ (es : List E) (given : List O) (u : S), M.Meets C u es → P given u →
      M.run u es = some t → P (given ++ M.emits out u es) t := by
    intro es
    induction es with
    | nil =>
        intro given u _ hu hrun
        rw [run_nil, Option.some.injEq] at hrun
        rw [emits, List.append_nil]
        exact hrun ▸ hu
    | cons e rest ih =>
        intro given u hmeets hu hrun
        obtain ⟨u', he, hrest⟩ := (run_cons_eq_some M).mp hrun
        have hend := ih (given ++ (out u e).toList) u' (hmeets.2 u' he)
          (hstep given u e u' hu hmeets.1 he) hrest
        rwa [List.append_assoc, ← emits_cons he] at hend
  exact hgeneral es [] s hmeets hs hrun

/-! ### Components -/

/-- **A component of a machine runs on its part of the events.** Each step of the whole is one of
the component, or leaves it as it is. -/
theorem run_component {T F : Type*} {N : Machine T F} {part : S → T} {event : E → Option F}
    (hstep : ∀ s e s', M.step s e = some s' →
      (∃ f, event e = some f ∧ N.step (part s) f = some (part s')) ∨
        (event e = none ∧ part s' = part s))
    {es : List E} {s t : S} (hrun : M.run s es = some t) :
    N.run (part s) (es.filterMap event) = some (part t) := by
  refine run_history (P := fun past u => N.run (part s) (past.filterMap event) = some (part u)) rfl
    (fun past u e u' hpast he => ?_) hrun
  rw [List.filterMap_append]
  rcases hstep u e u' he with ⟨f, hevent, hcomponent⟩ | ⟨hevent, hsame⟩
  · rw [List.filterMap_cons_some hevent, List.filterMap_nil]
    exact run_snoc hpast hcomponent
  · rw [List.filterMap_cons_none hevent, List.filterMap_nil, List.append_nil, hsame]
    exact hpast

end Machine
