/-
Multimaps that keep the order of the values of each key.

The entries stand in one list.  What an entry's position means is only its place
among the entries of its own key: `Same` identifies two multimaps that give every
key the same list of values, and it is the equality the users of a multimap see.

The second half is about filters.  A program rewrites a multimap by iterating,
keeping some of the entries and appending them to an empty one; `retain` is that
loop, and `getAll_retain` says what every key gets from it.
-/
import Mathlib.Data.List.Basic

/-- A multimap as the list of its entries. -/
structure Multimap (K V : Type) where
  entries : List (K × V)
deriving DecidableEq, Repr

namespace Multimap

variable {K V : Type} [DecidableEq K]

def empty : Multimap K V := ⟨[]⟩

/-- The entries in iteration order. -/
def iter (m : Multimap K V) : List (K × V) := m.entries

/-- The values of a key, in the order they were appended. -/
def getAll (m : Multimap K V) (k : K) : List V :=
  (m.entries.filter fun e => e.1 = k).map Prod.snd

/-- The first value of a key. -/
def get (m : Multimap K V) (k : K) : Option V := (m.getAll k).head?

/-- Adds a value after those the key has. -/
def append (m : Multimap K V) (k : K) (v : V) : Multimap K V := ⟨m.entries ++ [(k, v)]⟩

/-- Drops every value of a key. -/
def remove (m : Multimap K V) (k : K) : Multimap K V := ⟨m.entries.filter fun e => e.1 ≠ k⟩

/-- Makes `v` the only value of a key. -/
def insert (m : Multimap K V) (k : K) (v : V) : Multimap K V := (m.remove k).append k v

/-- Two multimaps that no key tells apart. -/
def Same (m n : Multimap K V) : Prop := ∀ k, m.getAll k = n.getAll k

/-! ### Reading after writing -/

@[simp] theorem getAll_empty (k : K) : (empty : Multimap K V).getAll k = [] := rfl

@[simp] theorem getAll_append (m : Multimap K V) (k j : K) (v : V) :
    (m.append k v).getAll j = if k = j then m.getAll j ++ [v] else m.getAll j := by
  by_cases h : k = j <;> simp [append, getAll, h]

@[simp] theorem getAll_remove (m : Multimap K V) (k j : K) :
    (m.remove k).getAll j = if k = j then [] else m.getAll j := by
  unfold remove getAll
  rw [List.filter_filter]
  by_cases h : k = j
  · subst h
    simp
  · rw [if_neg h]
    congr 1
    refine List.filter_congr fun e _ => ?_
    by_cases he : e.1 = j <;> simp [he, Ne.symm h]

@[simp] theorem getAll_insert (m : Multimap K V) (k j : K) (v : V) :
    (m.insert k v).getAll j = if k = j then [v] else m.getAll j := by
  by_cases h : k = j <;> simp [insert, h]

/-! ### Collecting and filtering -/

/-- Appends the entries one by one to an empty multimap. -/
def collect (es : List (K × V)) : Multimap K V :=
  es.foldl (fun m e => m.append e.1 e.2) empty

omit [DecidableEq K] in
private theorem foldl_append (es : List (K × V)) :
    ∀ m : Multimap K V, es.foldl (fun m e => m.append e.1 e.2) m = ⟨m.entries ++ es⟩ := by
  induction es with
  | nil => intro m; simp
  | cons e rest ih =>
      intro m
      rw [List.foldl_cons, ih]
      simp [append]

omit [DecidableEq K] in
theorem collect_eq (es : List (K × V)) : collect es = ⟨es⟩ := by
  rw [collect, foldl_append]
  rfl

/-- Appends the entries of `n` to `m`. -/
def extend (m n : Multimap K V) : Multimap K V := n.iter.foldl (fun m e => m.append e.1 e.2) m

omit [DecidableEq K] in
theorem extend_eq (m n : Multimap K V) : m.extend n = ⟨m.entries ++ n.entries⟩ :=
  foldl_append n.entries m

@[simp] theorem getAll_extend (m n : Multimap K V) (k : K) :
    (m.extend n).getAll k = m.getAll k ++ n.getAll k := by
  rw [extend_eq]
  unfold getAll
  rw [List.filter_append, List.map_append]

/-- Iterates, keeps the entries whose key passes the test, and collects them. -/
def retain (p : K → Bool) (m : Multimap K V) : Multimap K V :=
  collect (m.iter.filter fun e => p e.1)

/-- **A filter on keys keeps all the values of a key or none.** -/
@[simp] theorem getAll_retain (p : K → Bool) (m : Multimap K V) (k : K) :
    (retain p m).getAll k = if p k then m.getAll k else [] := by
  rw [retain, collect_eq]
  unfold getAll iter
  rw [List.filter_filter]
  by_cases hp : p k
  · rw [if_pos hp]
    congr 1
    refine List.filter_congr fun e _ => ?_
    by_cases he : e.1 = k <;> simp [he, hp]
  · rw [if_neg hp, List.map_eq_nil_iff, List.filter_eq_nil_iff]
    intro e _ hkeep
    simp only [Bool.and_eq_true, decide_eq_true_eq] at hkeep
    exact hp (hkeep.1 ▸ hkeep.2)

/-- Two filters forward the same fields of `m` exactly if they agree on the keys it has. -/
theorem same_retain_iff {p q : K → Bool} {m : Multimap K V} :
    Same (retain p m) (retain q m) ↔ ∀ k, m.getAll k ≠ [] → p k = q k := by
  constructor
  · intro h k hk
    have hget := h k
    rw [getAll_retain, getAll_retain] at hget
    cases hp : p k <;> cases hq : q k <;> simp_all
  · intro h k
    rw [getAll_retain, getAll_retain]
    by_cases hk : m.getAll k = []
    · simp [hk]
    · rw [h k hk]

end Multimap
