/-
What a load that fails leaves behind.

`LoadMove` lists how a call of the loader can end.  Only one end leaves more behind
than it reports: the copy is there, its directory has been put in front of
`jna.library.path`, and then the library does not load.  The callers take any
exception for "native unavailable" and call again, and so the status poller
lengthens the path at every poll.

Calls that do not end that way are harmless in any number and order, which is
`failed_loads_harmless_iff`.
-/
import Mathlib.Data.List.Basic
import TlsPlus.Extension.NativeLoader

namespace TlsPlus

open Text

variable {paths : LoaderPaths} {w : LoadWorld} {s : NativeLoader}

/-! ### One call -/

/-- The library is bundled and copied but cannot be loaded from the copy. -/
def LoadWorld.LoadFails (w : LoadWorld) : Prop :=
  w.resource = .ok true ∧ w.extract = .ok () ∧ ∃ e, w.load = .error e

/-- How a call can end. -/
inductive LoadMove (paths : LoaderPaths) (w : LoadWorld) (s : NativeLoader) : Ensured → Prop
  | already (hloaded : s.loaded = true) : LoadMove paths w s ⟨s, .ok (), [], []⟩
  | fails (hloaded : s.loaded = false) (hw : ¬w.LoadFails) (e : Throwable) (log : List Str) :
      LoadMove paths w s ⟨s, .error e, [], log⟩
  | strands (hloaded : s.loaded = false) (hw : w.LoadFails) (e : Throwable) :
      LoadMove paths w s
        ⟨⟨false, some (prependJnaLibraryPath paths s.jnaLibraryPath)⟩, .error e,
          [.prependsPath], []⟩
  | loadsCopy (hloaded : s.loaded = false) (hw : ¬w.LoadFails) (log : List Str) :
      LoadMove paths w s
        ⟨⟨true, some (prependJnaLibraryPath paths s.jnaLibraryPath)⟩, .ok (),
          [.prependsPath, .loadsLibrary], log⟩
  | loadsFound (hloaded : s.loaded = false) (hw : ¬w.LoadFails) (log : List Str) :
      LoadMove paths w s ⟨⟨true, s.jnaLibraryPath⟩, .ok (), [.loadsLibrary], log⟩

theorem loadMove (paths : LoaderPaths) (w : LoadWorld) (s : NativeLoader) :
    LoadMove paths w s (ensureLoaded paths w s) := by
  unfold ensureLoaded
  by_cases hloaded : s.loaded = true
  · rw [if_pos hloaded]
    exact .already hloaded
  · rw [if_neg hloaded]
    have hnot : s.loaded = false := by simpa using hloaded
    cases hresource : w.resource with
    | error e => exact .fails hnot (by simp [LoadWorld.LoadFails, hresource]) e _
    | ok bundled =>
        cases bundled with
        | false =>
            have hw : ¬w.LoadFails := by simp [LoadWorld.LoadFails, hresource]
            cases w.loadLibrary with
            | error e => exact .fails hnot hw e _
            | ok _ => exact .loadsFound hnot hw _
        | true =>
            cases hextract : w.extract with
            | error e => exact .fails hnot (by simp [LoadWorld.LoadFails, hextract]) e _
            | ok _ =>
                cases hload : w.load with
                | error e =>
                    simp only [hnot]
                    exact .strands hnot ⟨hresource, hextract, e, hload⟩ e
                | ok _ => exact .loadsCopy hnot (by simp [LoadWorld.LoadFails, hload]) _

/-- A path with the directory in front is another path. -/
theorem prependJnaLibraryPath_ne (paths : LoaderPaths) (existing : Option Str) :
    some (prependJnaLibraryPath paths existing) ≠ existing := by
  have hne : paths.extractionDir ≠ [] := by
    intro hnil
    have habsolute := paths.absolute
    rw [hnil] at habsolute
    exact absurd habsolute (by decide)
  unfold prependJnaLibraryPath
  cases existing with
  | none => simp
  | some path =>
      by_cases hblank : isNullOrBlank (some path) = true
      · simp only [if_pos hblank, ne_eq, Option.some.injEq]
        intro heq
        rw [← heq, paths.absolute] at hblank
        exact Bool.false_ne_true hblank
      · simp only [if_neg hblank, ne_eq, Option.some.injEq]
        intro heq
        have hlen := congrArg List.length heq
        have hpos := List.length_pos_of_ne_nil hne
        rw [List.length_append, List.length_append] at hlen
        omega

/-! ### A sequence of calls -/

/-- A call: what it found, what it met and how it ended. -/
structure LoadCall where
  before : NativeLoader
  world : LoadWorld
  after : Ensured

/-- The calls of a process, each in the state the one before left. -/
def loadCalls (paths : LoaderPaths) : NativeLoader → List LoadWorld → List LoadCall
  | _, [] => []
  | s, w :: rest =>
    ⟨s, w, ensureLoaded paths w s⟩ :: loadCalls paths (ensureLoaded paths w s).loader rest

/-- How often the calls did this. -/
def countEffects (effect : LoaderEffect) (calls : List LoadCall) : Nat :=
  (calls.flatMap fun call => call.after.effects).count effect

/-- A call that throws changes nothing, and one that returns finds the library loaded. -/
structure LoadCall.Harmless (call : LoadCall) : Prop where
  thrown : ∀ e, call.after.result = .error e →
    call.after.loader.loaded = false ∧
      call.after.loader.jnaLibraryPath = call.before.jnaLibraryPath
  returned : call.after.result = .ok () → call.after.loader.loaded = true

/-- The call that goes wrong: nothing was loaded yet, and the copy is there but does not load. -/
def LoadCall.Strands (call : LoadCall) : Prop :=
  call.before.loaded = false ∧ call.world.LoadFails

/-- **A call does harm exactly if its copy does not load.** -/
theorem harmless_iff (paths : LoaderPaths) (w : LoadWorld) (s : NativeLoader) :
    LoadCall.Harmless ⟨s, w, ensureLoaded paths w s⟩ ↔
      ¬LoadCall.Strands ⟨s, w, ensureLoaded paths w s⟩ := by
  have hmove := loadMove paths w s
  generalize ensureLoaded paths w s = r at hmove ⊢
  cases hmove with
  | already hloaded =>
      refine iff_of_true ⟨fun e he => absurd he (by simp), fun _ => hloaded⟩ ?_
      intro hstrands
      exact Bool.false_ne_true (hstrands.1.symm.trans hloaded)
  | fails hloaded hw e log =>
      exact iff_of_true ⟨fun _ _ => ⟨hloaded, rfl⟩, fun hok => absurd hok (by simp)⟩
        fun hstrands => hw hstrands.2
  | strands hloaded hw e =>
      refine iff_of_false ?_ (not_not.mpr ⟨hloaded, hw⟩)
      intro hharmless
      exact prependJnaLibraryPath_ne paths s.jnaLibraryPath (hharmless.thrown e rfl).2
  | loadsCopy hloaded hw log =>
      exact iff_of_true ⟨fun e he => absurd he (by simp), fun _ => rfl⟩
        fun hstrands => hw hstrands.2
  | loadsFound hloaded hw log =>
      exact iff_of_true ⟨fun e he => absurd he (by simp), fun _ => rfl⟩
        fun hstrands => hw hstrands.2

theorem forall_loadCalls {P : LoadCall → Prop}
    (h : ∀ w s, P ⟨s, w, ensureLoaded paths w s⟩) :
    ∀ (worlds : List LoadWorld) (s : NativeLoader), ∀ call ∈ loadCalls paths s worlds, P call := by
  intro worlds
  induction worlds with
  | nil => exact fun s call hcall => absurd hcall List.not_mem_nil
  | cons w rest ih =>
      intro s call hcall
      rcases List.mem_cons.mp hcall with rfl | hrest
      · exact h w s
      · exact ih _ call hrest

/-! ### How often -/

/-- What is still to be done once: 1 until the library is loaded. -/
def NativeLoader.due (s : NativeLoader) : Nat := if s.loaded then 0 else 1

/-- An effect that uses up what is due happens that often in any sequence of calls. -/
theorem countEffects_le {effect : LoaderEffect} {Q : LoadCall → Prop}
    (hstep : ∀ w s, Q ⟨s, w, ensureLoaded paths w s⟩ →
      (ensureLoaded paths w s).effects.count effect + (ensureLoaded paths w s).loader.due
        ≤ s.due) :
    ∀ (worlds : List LoadWorld) (s : NativeLoader), (∀ call ∈ loadCalls paths s worlds, Q call) →
      countEffects effect (loadCalls paths s worlds) ≤ s.due := by
  intro worlds
  induction worlds with
  | nil => exact fun s _ => Nat.zero_le _
  | cons w rest ih =>
      intro s hQ
      have hone := hstep w s (hQ _ List.mem_cons_self)
      have hrest := ih (ensureLoaded paths w s).loader
        fun call hcall => hQ call (List.mem_cons_of_mem _ hcall)
      unfold countEffects at hrest ⊢
      rw [loadCalls, List.flatMap_cons, List.count_append]
      show (ensureLoaded paths w s).effects.count effect + _ ≤ _
      omega

theorem due_le_one (s : NativeLoader) : s.due ≤ 1 := by
  unfold NativeLoader.due
  split <;> omega

/-- Loading uses up what is due, and so does putting the directory in front, except in a call that
strands. -/
theorem count_effects_le_due {effect : LoaderEffect}
    (h : effect = .loadsLibrary ∨ ¬LoadCall.Strands ⟨s, w, ensureLoaded paths w s⟩) :
    (ensureLoaded paths w s).effects.count effect + (ensureLoaded paths w s).loader.due
      ≤ s.due := by
  have hmove := loadMove paths w s
  generalize ensureLoaded paths w s = r at hmove h ⊢
  cases hmove with
  | already hloaded => simp
  | fails hloaded hw e log => simp
  | strands hloaded hw e =>
      rcases h with rfl | hnot
      · simp [NativeLoader.due, hloaded]
      · exact absurd ⟨hloaded, hw⟩ hnot
  | loadsCopy hloaded hw log =>
      cases effect with
      | prependsPath => simp [NativeLoader.due, hloaded]
      | loadsLibrary => simp [NativeLoader.due, hloaded]
  | loadsFound hloaded hw log =>
      cases effect with
      | prependsPath => simp [NativeLoader.due]
      | loadsLibrary => simp [NativeLoader.due, hloaded]

/-- **The library is loaded once at most**, whatever the calls meet. -/
theorem loads_le_one (paths : LoaderPaths) (worlds : List LoadWorld) (s : NativeLoader) :
    countEffects .loadsLibrary (loadCalls paths s worlds) ≤ 1 := by
  have hdue : countEffects .loadsLibrary (loadCalls paths s worlds) ≤ s.due :=
    countEffects_le (Q := fun _ => True) (fun _ _ _ => count_effects_le_due (Or.inl rfl)) worlds s
      fun _ _ => trivial
  exact hdue.trans (due_le_one s)

/-- If no call strands, the directory is put in front with the load, and so once at most. -/
theorem prepends_le_one {worlds : List LoadWorld} {s : NativeLoader}
    (h : ∀ call ∈ loadCalls paths s worlds, ¬call.Strands) :
    countEffects .prependsPath (loadCalls paths s worlds) ≤ 1 := by
  have hdue : countEffects .prependsPath (loadCalls paths s worlds) ≤ s.due :=
    countEffects_le (Q := fun call => ¬call.Strands)
      (fun _ _ hnot => count_effects_le_due (Or.inr hnot)) worlds s h
  exact hdue.trans (due_le_one s)

/-- **Failed loads are harmless exactly as long as no copy fails to load.** In a sequence of calls
every call that throws leaves the path as it was and every call that returns finds the library
loaded, with one load and one directory in front at most, if and only if no call that comes before
the load finds the copy in place and cannot load it. -/
theorem failed_loads_harmless_iff (paths : LoaderPaths) (s : NativeLoader)
    (worlds : List LoadWorld) :
    ((∀ call ∈ loadCalls paths s worlds, call.Harmless) ∧
      countEffects .loadsLibrary (loadCalls paths s worlds) ≤ 1 ∧
      countEffects .prependsPath (loadCalls paths s worlds) ≤ 1) ↔
    ∀ call ∈ loadCalls paths s worlds, ¬call.Strands := by
  have hcalls : ∀ call ∈ loadCalls paths s worlds, call.Harmless ↔ ¬call.Strands :=
    forall_loadCalls (harmless_iff paths) worlds s
  constructor
  · intro ⟨hharmless, _⟩ call hcall
    exact (hcalls call hcall).mp (hharmless call hcall)
  · intro hnone
    exact ⟨fun call hcall => (hcalls call hcall).mpr (hnone call hcall),
      loads_le_one paths worlds s, prepends_le_one hnone⟩

/-! ### A copy that never loads -/

/-- Every call puts the directory in front once more. -/
theorem prepends_of_loadFails (paths : LoaderPaths) {worlds : List LoadWorld} :
    ∀ {s : NativeLoader}, s.loaded = false → (∀ w ∈ worlds, w.LoadFails) →
      countEffects .prependsPath (loadCalls paths s worlds) = worlds.length := by
  induction worlds with
  | nil => exact fun _ _ => rfl
  | cons w rest ih =>
      intro s hloaded hfails
      have hmove := loadMove paths w s
      unfold countEffects at ih ⊢
      rw [loadCalls, List.flatMap_cons, List.count_append, List.length_cons]
      show (ensureLoaded paths w s).effects.count .prependsPath + _ = _
      generalize ensureLoaded paths w s = r at hmove ⊢
      have hw : w.LoadFails := hfails w List.mem_cons_self
      cases hmove with
      | strands _ _ e =>
          rw [ih rfl fun v hv => hfails v (List.mem_cons_of_mem _ hv)]
          exact Nat.add_comm 1 _
      | already hloaded' => exact absurd (hloaded.symm.trans hloaded') (by simp)
      | fails _ hnot _ _ | loadsCopy _ hnot _ | loadsFound _ hnot _ => exact absurd hw hnot

def samplePaths : LoaderPaths where
  resourcePath := "/native/linux-x86_64/libtlsplus_core.so"
  extractionDir := "/tmp/tlsplus-native/linux-x86_64"
  target := "/tmp/tlsplus-native/linux-x86_64/libtlsplus_core.so"
  separator := ":"
  absolute := by decide

/-- The library is bundled and copied, and the system refuses to load it. -/
def brokenCopy : LoadWorld where
  resource := .ok true
  extract := .ok ()
  load := .error ⟨some "wrong ELF class"⟩
  loadLibrary := .ok ()

/-- **A failed load lengthens the path**, and so does the next. -/
theorem failed_load_prepends :
    let calls := loadCalls samplePaths ⟨false, some "/opt/jna"⟩ [brokenCopy, brokenCopy]
    calls.map (fun call => call.after.loader) = [
      ⟨false, some "/tmp/tlsplus-native/linux-x86_64:/opt/jna"⟩,
      ⟨false, some ("/tmp/tlsplus-native/linux-x86_64:" ++
        "/tmp/tlsplus-native/linux-x86_64:/opt/jna")⟩] ∧
    countEffects .prependsPath calls = 2 ∧
    ¬((∀ call ∈ calls, call.Harmless) ∧ countEffects .loadsLibrary calls ≤ 1 ∧
      countEffects .prependsPath calls ≤ 1) := by
  intro calls
  have hcount : countEffects .prependsPath calls = 2 := by decide
  refine ⟨by decide, hcount, fun hclaim => ?_⟩
  have hle := hclaim.2.2
  rw [hcount] at hle
  omega

end TlsPlus
