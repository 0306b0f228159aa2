/-
Text as a list of characters.

A program that reads protocol text splits it, trims it, compares it ignoring
ASCII case and turns numbers into decimals and back.  This file holds those
operations with the behaviour of the Rust standard library, on lists of Unicode
scalar values, and the few facts about them that a reader of such text needs.

Splitting is the core `List.splitOn` and decimals are the core `Nat.toDigits`;
what is here is what those two lack.
-/
import Mathlib.Data.List.DropRight

/-- A Unicode string, character by character. -/
abbrev Str := List Char

instance : Coe String Str := ⟨String.toList⟩

namespace Text

/-! ### ASCII case -/

/-- ASCII letters in lower case, everything else unchanged. -/
def toAsciiLowercase (s : Str) : Str := s.map Char.toLower

/-- Equality up to the case of ASCII letters. -/
def eqIgnoreAsciiCase (s t : Str) : Bool := toAsciiLowercase s == toAsciiLowercase t

theorem eqIgnoreAsciiCase_iff {s t : Str} :
    eqIgnoreAsciiCase s t = true ↔ toAsciiLowercase s = toAsciiLowercase t := by
  simp [eqIgnoreAsciiCase]

@[simp] theorem eqIgnoreAsciiCase_refl (s : Str) : eqIgnoreAsciiCase s s = true := by
  simp [eqIgnoreAsciiCase]

theorem eqIgnoreAsciiCase_comm (s t : Str) : eqIgnoreAsciiCase s t = eqIgnoreAsciiCase t s := by
  rw [Bool.eq_iff_iff, eqIgnoreAsciiCase_iff, eqIgnoreAsciiCase_iff]
  exact eq_comm

/-- A name matched ignoring case can be replaced by the name it matched. -/
theorem eqIgnoreAsciiCase_congr {s t : Str} (h : eqIgnoreAsciiCase s t = true) (u : Str) :
    eqIgnoreAsciiCase u s = eqIgnoreAsciiCase u t := by
  rw [eqIgnoreAsciiCase_iff] at h
  simp [eqIgnoreAsciiCase, h]

theorem toNat_toLower (c : Char) :
    c.toLower.toNat = if 65 ≤ c.toNat ∧ c.toNat ≤ 90 then c.toNat + 32 else c.toNat := by
  by_cases h : c.val ≥ 'A'.val ∧ c.val ≤ 'Z'.val
  · have hrange : 65 ≤ c.toNat ∧ c.toNat ≤ 90 :=
      ⟨UInt32.le_iff_toNat_le.mp h.1, UInt32.le_iff_toNat_le.mp h.2⟩
    have hlower : c.toLower.val = c.val + 32 := congrArg Char.val (dif_pos h)
    have hadd : c.toLower.toNat = (c.toNat + 32) % UInt32.size := by
      show c.toLower.val.toNat = _
      rw [hlower, UInt32.toNat_add]
      rfl
    rw [if_pos hrange, hadd, Nat.mod_eq_of_lt]
    have hsize : 122 < UInt32.size := by decide
    omega
  · have hrange : ¬(65 ≤ c.toNat ∧ c.toNat ≤ 90) := fun hc =>
      h ⟨UInt32.le_iff_toNat_le.mpr hc.1, UInt32.le_iff_toNat_le.mpr hc.2⟩
    have hsame : c.toLower = c := dif_neg h
    rw [if_neg hrange, hsame]

/-! ### ASCII letters and digits -/

theorem isUpper_iff {c : Char} : c.isUpper = true ↔ 65 ≤ c.toNat ∧ c.toNat ≤ 90 := by
  show decide ('A'.val ≤ c.val ∧ c.val ≤ 'Z'.val) = true ↔ _
  rw [decide_eq_true_iff, UInt32.le_iff_toNat_le, UInt32.le_iff_toNat_le]
  rfl

theorem isLower_iff {c : Char} : c.isLower = true ↔ 97 ≤ c.toNat ∧ c.toNat ≤ 122 := by
  show (decide ('a'.val ≤ c.val) && decide (c.val ≤ 'z'.val)) = true ↔ _
  rw [Bool.and_eq_true, decide_eq_true_iff, decide_eq_true_iff, UInt32.le_iff_toNat_le,
    UInt32.le_iff_toNat_le]
  rfl

theorem isDigit_iff {c : Char} : c.isDigit = true ↔ 48 ≤ c.toNat ∧ c.toNat ≤ 57 :=
  Char.isDigit_iff_toNat

theorem isAlphanum_iff {c : Char} : c.isAlphanum = true ↔
    (65 ≤ c.toNat ∧ c.toNat ≤ 90) ∨ (97 ≤ c.toNat ∧ c.toNat ≤ 122) ∨
      (48 ≤ c.toNat ∧ c.toNat ≤ 57) := by
  show (c.isUpper || c.isLower || c.isDigit) = true ↔ _
  rw [Bool.or_eq_true, Bool.or_eq_true, isUpper_iff, isLower_iff, isDigit_iff, or_assoc]

theorem isHexDigit_iff {c : Char} : c.isHexDigit = true ↔
    (48 ≤ c.toNat ∧ c.toNat ≤ 57) ∨ (97 ≤ c.toNat ∧ c.toNat ≤ 102) ∨
      (65 ≤ c.toNat ∧ c.toNat ≤ 70) := by
  simp [Char.isHexDigit, Char.isDigit, UInt32.le_iff_toNat_le, or_assoc]

/-! ### White space -/

/-- The Unicode `White_Space` property. -/
def isWhitespace (c : Char) : Bool :=
  let n := c.toNat
  (9 ≤ n && n ≤ 13) || n == 0x20 || n == 0x85 || n == 0xA0 || n == 0x1680 ||
    (0x2000 ≤ n && n ≤ 0x200A) || n == 0x2028 || n == 0x2029 || n == 0x202F ||
    n == 0x205F || n == 0x3000

/-- Without the white space at either end. -/
def trim (s : Str) : Str := (s.dropWhile isWhitespace).rdropWhile isWhitespace

/-- A visible ASCII character is no white space. -/
theorem isWhitespace_of_visible {c : Char} (h : 33 ≤ c.toNat ∧ c.toNat < 127) :
    isWhitespace c = false := by
  simp only [isWhitespace, Bool.or_eq_false_iff, Bool.and_eq_false_iff, decide_eq_false_iff_not,
    beq_eq_false_iff_ne]
  omega

theorem isWhitespace_toLower (c : Char) : isWhitespace c.toLower = isWhitespace c := by
  by_cases h : 65 ≤ c.toNat ∧ c.toNat ≤ 90
  · have hlower := toNat_toLower c
    rw [if_pos h] at hlower
    rw [isWhitespace_of_visible (c := c) (by omega),
      isWhitespace_of_visible (c := c.toLower) (by omega)]
  · unfold isWhitespace
    rw [toNat_toLower, if_neg h]

theorem trim_toAsciiLowercase (s : Str) : trim (toAsciiLowercase s) = toAsciiLowercase (trim s) := by
  have hcomp : isWhitespace ∘ Char.toLower = isWhitespace := funext isWhitespace_toLower
  unfold trim toAsciiLowercase List.rdropWhile
  rw [List.dropWhile_map, hcomp, ← List.map_reverse, List.dropWhile_map, hcomp, List.map_reverse]

theorem trim_sublist (s : Str) : List.Sublist (trim s) s :=
  (List.rdropWhile_prefix _ _).sublist.trans (List.dropWhile_sublist _)

/-- Spellings of a text without outer white space have none. -/
theorem trim_eq_self_of_eqIgnoreAsciiCase {s t : Str} (hs : trim s = s)
    (h : eqIgnoreAsciiCase s t = true) : trim t = t := by
  rw [eqIgnoreAsciiCase_iff] at h
  have hlower : toAsciiLowercase (trim t) = toAsciiLowercase t := by
    rw [← trim_toAsciiLowercase, ← h, trim_toAsciiLowercase, hs]
  have hlen := congrArg List.length hlower
  refine (trim_sublist t).eq_of_length ?_
  simpa [toAsciiLowercase] using hlen

theorem trim_eq_self_iff {s : Str} :
    trim s = s ↔ s.dropWhile isWhitespace = s ∧ s.rdropWhile isWhitespace = s := by
  refine ⟨fun h => ?_, fun ⟨hfront, hback⟩ => by rw [trim, hfront, hback]⟩
  have hlen : (trim s).length ≤ (s.dropWhile isWhitespace).length :=
    (List.rdropWhile_prefix _ _).length_le
  rw [h] at hlen
  have hfront : s.dropWhile isWhitespace = s :=
    (List.dropWhile_sublist _).eq_of_length_le hlen
  refine ⟨hfront, ?_⟩
  rwa [trim, hfront] at h

@[simp] theorem trim_cons {c : Char} (h : isWhitespace c = true) (s : Str) :
    trim (c :: s) = trim s := by
  rw [trim, List.dropWhile_cons_of_pos h]
  rfl

theorem trim_eq_self_of_forall {s : Str} (h : ∀ c ∈ s, isWhitespace c = false) : trim s = s := by
  rw [trim_eq_self_iff, List.dropWhile_eq_self_iff, List.rdropWhile_eq_self_iff]
  refine ⟨fun hlen => ?_, fun hne => ?_⟩
  · simp [h _ (List.getElem_mem hlen)]
  · simp [h _ (List.getLast_mem hne)]

/-- Characters that are not white space can stand before a text without outer white space. -/
theorem trim_append {s t : Str} (hs : ∀ c ∈ s, isWhitespace c = false) (hne : t ≠ [])
    (ht : trim t = t) : trim (s ++ t) = s ++ t := by
  cases s with
  | nil => exact ht
  | cons c s =>
      refine trim_eq_self_iff.mpr ⟨?_, ?_⟩
      · rw [List.cons_append, List.dropWhile_cons_of_neg]
        simp [hs c List.mem_cons_self]
      · rw [List.rdropWhile_eq_self_iff]
        intro hl
        rw [List.getLast_append_of_ne_nil hl hne]
        exact List.rdropWhile_eq_self_iff.mp (trim_eq_self_iff.mp ht).2 hne

/-! ### Splitting -/

/-- The text before and after the first occurrence of `sep`. -/
def splitOnce (sep : Str) : Str → Option (Str × Str)
  | [] => if sep = [] then some ([], []) else none
  | c :: rest =>
    if sep.isPrefixOf (c :: rest) then some ([], (c :: rest).drop sep.length)
    else (splitOnce sep rest).map fun (before, after) => (c :: before, after)

/-- `sep` stands in `s` between `before` and `after`, and nowhere sooner. -/
structure SplitsAt (sep s before after : Str) : Prop where
  eq : s = before ++ sep ++ after
  first : ∀ before' after', s = before' ++ sep ++ after' → before.length ≤ before'.length

/-- A text has one first occurrence. -/
theorem SplitsAt.unique {sep s b a b' a' : Str} (h : SplitsAt sep s b a) (h' : SplitsAt sep s b' a') :
    b = b' ∧ a = a' := by
  have hlen : b.length = b'.length := Nat.le_antisymm (h.first _ _ h'.eq) (h'.first _ _ h.eq)
  have heq := h.eq.symm.trans h'.eq
  rw [List.append_assoc, List.append_assoc] at heq
  obtain ⟨hb, hrest⟩ := List.append_inj heq hlen
  exact ⟨hb, List.append_cancel_left hrest⟩

theorem splitsAt_of_splitOnce {sep : Str} : ∀ {s before after : Str},
    splitOnce sep s = some (before, after) → SplitsAt sep s before after
  | [], before, after, h => by
      unfold splitOnce at h
      split at h
      · rename_i hsep
        obtain ⟨rfl, rfl⟩ : [] = before ∧ [] = after := by simpa using h
        exact ⟨by rw [hsep]; rfl, fun _ _ _ => Nat.zero_le _⟩
      · exact absurd h (by simp)
  | c :: rest, before, after, h => by
      unfold splitOnce at h
      split at h
      · rename_i hprefix
        obtain ⟨rfl, rfl⟩ : [] = before ∧ (c :: rest).drop sep.length = after := by simpa using h
        obtain ⟨tail, htail⟩ := List.isPrefixOf_iff_prefix.mp hprefix
        refine ⟨?_, fun _ _ _ => Nat.zero_le _⟩
        rw [← htail, List.drop_left]
        rfl
      · rename_i hprefix
        obtain ⟨⟨before, after⟩, hrest, heq⟩ := Option.map_eq_some_iff.mp h
        obtain ⟨rfl, rfl⟩ : c :: before = _ ∧ after = _ := by simpa using heq
        have ih := splitsAt_of_splitOnce hrest
        refine ⟨by rw [ih.eq]; rfl, ?_⟩
        intro before' after' hsplit
        cases before' with
        | nil => exact absurd (List.isPrefixOf_iff_prefix.mpr ⟨after', hsplit.symm⟩) hprefix
        | cons d before' =>
            have hlen := ih.first before' after' (List.cons.inj hsplit).2
            exact Nat.succ_le_succ hlen

/-- An occurrence is found. -/
theorem splitOnce_ne_none {sep : Str} (after : Str) :
    ∀ before : Str, splitOnce sep (before ++ sep ++ after) ≠ none
  | [] => by
      rw [List.nil_append]
      cases hs : sep ++ after with
      | nil => simp [splitOnce, (List.append_eq_nil_iff.mp hs).1]
      | cons c rest =>
          have hprefix : sep.isPrefixOf (c :: rest) = true :=
            List.isPrefixOf_iff_prefix.mpr ⟨after, hs⟩
          simp [splitOnce, hprefix]
  | c :: before => by
      show splitOnce sep (c :: (before ++ sep ++ after)) ≠ none
      unfold splitOnce
      split
      · simp
      · rw [Ne, Option.map_eq_none_iff]
        exact splitOnce_ne_none after before

theorem splitOnce_eq_some_iff {sep s before after : Str} :
    splitOnce sep s = some (before, after) ↔ SplitsAt sep s before after := by
  refine ⟨splitsAt_of_splitOnce, fun h => ?_⟩
  cases hsplit : splitOnce sep s with
  | none =>
      rw [h.eq] at hsplit
      exact absurd hsplit (splitOnce_ne_none after before)
  | some found =>
      obtain ⟨rfl, rfl⟩ := (splitsAt_of_splitOnce hsplit).unique h
      rfl

/-- The first occurrence of a character is the one with none before it. -/
theorem splitsAt_singleton {c : Char} {s before after : Str} :
    SplitsAt [c] s before after ↔ s = before ++ c :: after ∧ c ∉ before := by
  constructor
  · intro h
    refine ⟨by simpa using h.eq, fun hmem => ?_⟩
    obtain ⟨x, y, hbefore⟩ := List.append_of_mem hmem
    have hlen := h.first x (y ++ c :: after) (by simp [h.eq, hbefore])
    rw [hbefore] at hlen
    rw [List.length_append, List.length_cons] at hlen
    omega
  · intro ⟨hs, hnot⟩
    refine ⟨by simp [hs], ?_⟩
    intro before' after' hs'
    have heq : before' ++ c :: after' = before ++ c :: after := by
      rw [← hs, hs', List.append_assoc, List.singleton_append]
    by_contra hlt
    rcases List.append_eq_append_iff.mp heq with ⟨x, hx, hrest⟩ | ⟨x, hx, hrest⟩
    · cases x with
      | nil => simp [hx] at hlt
      | cons d x =>
          have hd : c = d := (List.cons.inj hrest).1
          exact hnot (by rw [hx, hd]; simp)
    · simp [hx] at hlt

theorem splitOnce_singleton {c : Char} {s before after : Str} :
    splitOnce [c] s = some (before, after) ↔ s = before ++ c :: after ∧ c ∉ before :=
  splitOnce_eq_some_iff.trans splitsAt_singleton

/-- Two texts split at their first separator have equal parts. -/
theorem append_separator_inj {sep : Char} {s s' t t' : Str} (hs : sep ∉ s) (hs' : sep ∉ s')
    (h : s ++ sep :: t = s' ++ sep :: t') : s = s' ∧ t = t' :=
  (splitsAt_singleton.mpr ⟨rfl, hs⟩).unique (splitsAt_singleton.mpr ⟨h, hs'⟩)

/-! ### Searching and replacing -/

/-- The position of the last occurrence of `c`. -/
def lastIndexOf (c : Char) (s : Str) : Option Nat :=
  (s.reverse.idxOf? c).map fun i => s.length - 1 - i

/-- Replaces the occurrences of `old` from left to right; `skip` counts the characters of an
occurrence that has been replaced already. -/
def replaceFrom (old new : Str) : Nat → Str → Str
  | _, [] => []
  | skip + 1, _ :: rest => replaceFrom old new skip rest
  | 0, c :: rest =>
    if old.isPrefixOf (c :: rest) then new ++ replaceFrom old new (old.length - 1) rest
    else c :: replaceFrom old new 0 rest

def replaceAll (old new s : Str) : Str := replaceFrom old new 0 s

theorem idxOf?_append {c : Char} (t : Str) : ∀ {s : Str}, c ∉ s →
    (s ++ c :: t).idxOf? c = some s.length
  | [], _ => by rw [List.nil_append, List.idxOf?_cons, if_pos (BEq.refl c), List.length_nil]
  | d :: s, h => by
      rw [List.mem_cons, not_or] at h
      rw [List.cons_append, List.idxOf?_cons, if_neg (by simpa using Ne.symm h.1),
        idxOf?_append t h.2, Option.map_some, List.length_cons]

theorem lastIndexOf_append {c : Char} (s : Str) {t : Str} (h : c ∉ t) :
    lastIndexOf c (s ++ c :: t) = some s.length := by
  have hidx : (t.reverse ++ c :: s.reverse).idxOf? c = some t.length := by
    rw [idxOf?_append _ (by simpa using h), List.length_reverse]
  have hreverse : (s ++ c :: t).reverse = t.reverse ++ c :: s.reverse := by simp
  rw [lastIndexOf, hreverse, hidx, Option.map_some, List.length_append, List.length_cons]
  congr 1
  omega

theorem replaceFrom_skip (old new : Str) : ∀ (skip : Nat) (s : Str),
    replaceFrom old new skip s = replaceAll old new (s.drop skip)
  | 0, _ => rfl
  | _ + 1, [] => rfl
  | skip + 1, _ :: rest => replaceFrom_skip old new skip rest

/-- Either there is nothing to replace, or what was replaced first can be shown. -/
theorem replaceAll_cases {old : Str} (hold : old ≠ []) (new : Str) : ∀ s : Str,
    replaceAll old new s = s ∨
      ∃ before after, s = before ++ old ++ after ∧
        replaceAll old new s = before ++ new ++ replaceAll old new after
  | [] => Or.inl rfl
  | c :: rest => by
      by_cases hprefix : old.isPrefixOf (c :: rest) = true
      · obtain ⟨after, hafter⟩ := List.isPrefixOf_iff_prefix.mp hprefix
        refine Or.inr ⟨[], after, hafter.symm, ?_⟩
        have hdrop : rest.drop (old.length - 1) = after := by
          obtain ⟨d, old, rfl⟩ := List.exists_cons_of_ne_nil hold
          rw [← (List.cons.inj hafter).2]
          exact List.drop_left
        have hstep : replaceAll old new (c :: rest)
            = new ++ replaceFrom old new (old.length - 1) rest := if_pos hprefix
        rw [hstep, replaceFrom_skip, hdrop]
        rfl
      · have hstep : replaceAll old new (c :: rest) = c :: replaceAll old new rest :=
          if_neg hprefix
        rcases replaceAll_cases hold new rest with hsame | ⟨before, after, hs, hresult⟩
        · exact Or.inl (by rw [hstep, hsame])
        · refine Or.inr ⟨c :: before, after, ?_, ?_⟩
          · rw [hs]
            rfl
          · rw [hstep, hresult]
            rfl

theorem replaceAll_eq_nil {old new : Str} (hold : old ≠ []) (hnew : new ≠ []) {s : Str} :
    replaceAll old new s = [] ↔ s = [] := by
  refine ⟨fun h => ?_, fun h => by rw [h]; rfl⟩
  rcases replaceAll_cases hold new s with hsame | ⟨before, after, -, hresult⟩
  · rw [← hsame, h]
  · rw [h] at hresult
    simp [hnew] at hresult

/-- Where `old` does not stand, nothing changes. -/
theorem replaceAll_of_not_mem {old s : Str} {c : Char} (hc : c ∈ old) (h : c ∉ s) (new : Str) :
    replaceAll old new s = s := by
  rcases replaceAll_cases (List.ne_nil_of_mem hc) new s with hsame | ⟨before, after, hs, -⟩
  · exact hsame
  · exact absurd (by simp [hs, hc]) h

/-- A result without a character of `new` has nothing replaced. -/
theorem eq_of_replaceAll_eq {old new s t : Str} {c : Char} (hold : old ≠ []) (hc : c ∈ new)
    (ht : c ∉ t) (h : replaceAll old new s = t) : s = t := by
  rcases replaceAll_cases hold new s with hsame | ⟨before, after, -, hresult⟩
  · exact hsame.symm.trans h
  · rw [hresult] at h
    exact absurd (by simp [← h, hc]) ht

/-- A result that is `new` was `new`, or `old` and all of it replaced. -/
theorem eq_of_replaceAll_eq_new {old new s : Str} (hold : old ≠ []) (hnew : new ≠ [])
    (h : replaceAll old new s = new) : s = new ∨ s = old := by
  rcases replaceAll_cases hold new s with hsame | ⟨before, after, hs, hresult⟩
  · exact Or.inl (hsame.symm.trans h)
  · have hlen := congrArg List.length (hresult.symm.trans h)
    rw [List.length_append, List.length_append] at hlen
    have hbefore : before = [] := List.length_eq_zero_iff.mp (by omega)
    have hafter : after = [] :=
      (replaceAll_eq_nil hold hnew).mp (List.length_eq_zero_iff.mp (by omega))
    rw [hbefore, hafter, List.nil_append, List.append_nil] at hs
    exact Or.inr hs

/-! ### Comma lists -/

/-- The elements of a comma-separated list: trimmed, not empty, in lower case. -/
def listElements (text : Str) : List Str :=
  (((text.splitOn ',').map trim).filter (· ≠ [])).map toAsciiLowercase

/-- Several lines as one list. -/
def joinLines (lines : List Str) : Str := List.intercalate [','] lines

/-- **A list may be cut into lines at its commas.** -/
theorem listElements_joinLines (lines : List Str) :
    listElements (joinLines lines) = lines.flatMap listElements := by
  unfold joinLines
  induction lines with
  | nil => rfl
  | cons line rest ih =>
      cases rest with
      | nil => simp
      | cons next rest =>
          rw [List.intercalate_cons_cons, List.append_assoc, List.singleton_append,
            List.flatMap_cons, ← ih]
          unfold listElements
          rw [List.splitOn_append_cons_self, List.map_append, List.filter_append, List.map_append]

theorem mem_listElements {text e : Str} :
    e ∈ listElements text ↔
      ∃ token ∈ text.splitOn ',', trim token ≠ [] ∧ toAsciiLowercase (trim token) = e := by
  unfold listElements
  simp only [List.mem_map, List.mem_filter, decide_eq_true_eq]
  constructor
  · rintro ⟨_, ⟨⟨token, htoken, rfl⟩, hne⟩, hlower⟩
    exact ⟨token, htoken, hne, hlower⟩
  · rintro ⟨token, htoken, hne, hlower⟩
    exact ⟨trim token, ⟨⟨token, htoken, rfl⟩, hne⟩, hlower⟩

/-! ### Decimals -/

/-- The decimal digits of `n`, without leading zeros. -/
def decimal (n : Nat) : Str := Nat.toDigits 10 n

/-- Reads a decimal with an optional leading plus sign that is below `bound`. -/
def parseUnsigned (bound : Nat) (s : Str) : Option Nat :=
  let digits := match s with
    | '+' :: rest => rest
    | _ => s
  if digits ≠ [] ∧ digits.all Char.isDigit then
    let n := Nat.ofDigitChars 10 digits 0
    if n < bound then some n else none
  else none

theorem decimal_ne_nil (n : Nat) : decimal n ≠ [] := Nat.toDigits_ne_nil

theorem isDigit_of_mem_decimal {n : Nat} {c : Char} (h : c ∈ decimal n) : c.isDigit = true :=
  Nat.isDigit_of_mem_toDigits (by decide) (by decide) h

/-- Only digits stand in a decimal, so no separator does. -/
theorem not_mem_decimal {c : Char} (hc : c.isDigit = false) (n : Nat) : c ∉ decimal n := by
  intro hmem
  rw [isDigit_of_mem_decimal hmem] at hc
  exact Bool.noConfusion hc

theorem decimal_injective : Function.Injective decimal := by
  intro m n h
  have hread : Nat.ofDigitChars 10 (decimal m) 0 = Nat.ofDigitChars 10 (decimal n) 0 := by rw [h]
  simpa [decimal] using hread

/-- Reads a number without a sign. -/
def readDecimal (s : Str) : Option Nat :=
  if s ≠ [] ∧ s.all Char.isDigit = true then some (Nat.ofDigitChars 10 s 0) else none

@[simp] theorem readDecimal_decimal (n : Nat) : readDecimal (decimal n) = some n := by
  have hdigits : (decimal n).all Char.isDigit = true :=
    List.all_eq_true.mpr fun _ => isDigit_of_mem_decimal
  rw [readDecimal, if_pos ⟨decimal_ne_nil n, hdigits⟩]
  simp [decimal]

/-! ### Joined lists of decimals

A list written as its decimals with a separator between them can be read back:
the separator is not a digit, so splitting recovers the parts, and no decimal is
empty, so the empty list is not mistaken for a list of one.
-/

/-- The decimals of a list with `sep` between them. -/
def joinDecimals (sep : Char) (ns : List Nat) : Str := [sep].intercalate (ns.map decimal)

@[simp] theorem joinDecimals_nil (sep : Char) : joinDecimals sep [] = [] := rfl

theorem splitOn_joinDecimals {sep : Char} (hsep : sep.isDigit = false) {ns : List Nat}
    (hne : ns ≠ []) : (joinDecimals sep ns).splitOn sep = ns.map decimal := by
  refine List.splitOn_intercalate sep ?_ (by simpa using hne)
  intro part hpart
  obtain ⟨n, -, rfl⟩ := List.mem_map.mp hpart
  exact not_mem_decimal hsep n

theorem joinDecimals_eq_nil {sep : Char} (hsep : sep.isDigit = false) {ns : List Nat} :
    joinDecimals sep ns = [] ↔ ns = [] := by
  refine ⟨fun h => ?_, fun h => by rw [h]; rfl⟩
  by_contra hne
  have hsplit := splitOn_joinDecimals hsep hne
  rw [h] at hsplit
  obtain ⟨n, rest, rfl⟩ := List.exists_cons_of_ne_nil hne
  have hnil : decimal n = [] := by
    have := congrArg List.head? hsplit
    simpa using this.symm
  exact decimal_ne_nil n hnil

/-- Reads the numbers of a list with `sep` between them; the empty text is the empty list. -/
def readDecimals (sep : Char) (s : Str) : Option (List Nat) :=
  if s = [] then some [] else (s.splitOn sep).mapM readDecimal

theorem readDecimals_joinDecimals {sep : Char} (hsep : sep.isDigit = false) (ns : List Nat) :
    readDecimals sep (joinDecimals sep ns) = some ns := by
  unfold readDecimals
  by_cases hns : ns = []
  · rw [hns]
    rfl
  · have hne : joinDecimals sep ns ≠ [] := fun h => hns ((joinDecimals_eq_nil hsep).mp h)
    have hread : readDecimal ∘ decimal = fun n => pure n := funext readDecimal_decimal
    rw [if_neg hne, splitOn_joinDecimals hsep hns, List.mapM_map, hread, List.mapM_pure, List.map_id']
    rfl

theorem joinDecimals_injective {sep : Char} (hsep : sep.isDigit = false) :
    Function.Injective (joinDecimals sep) := by
  intro ms ns h
  have hread := readDecimals_joinDecimals hsep ms
  rw [h, readDecimals_joinDecimals hsep ns] at hread
  exact (Option.some.inj hread).symm

/-- A joined list holds digits and separators only. -/
theorem not_mem_joinDecimals {sep c : Char} (hc : c.isDigit = false) (hne : c ≠ sep)
    (ns : List Nat) : c ∉ joinDecimals sep ns := by
  unfold joinDecimals
  induction ns with
  | nil => simp
  | cons n rest ih =>
      cases rest with
      | nil => simpa using not_mem_decimal hc n
      | cons m more =>
          simp only [List.map_cons, List.intercalate_cons_cons] at ih ⊢
          simp only [List.mem_append, List.mem_singleton, not_or]
          exact ⟨⟨not_mem_decimal hc n, hne⟩, ih⟩

end Text
