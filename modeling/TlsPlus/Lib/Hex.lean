/-
Hexadecimal text.

A hex dump writes a byte as two digits, in either letter case, and puts what it
likes around them.  `Spreads` is that freedom as a relation: it relates the digits,
as numbers, to every text that has them in this order with other characters before,
between and after.  A reader that first drops all other characters sees the digits
and nothing else (`Spreads.filter`).
-/
import TlsPlus.Lib.Text

namespace Text

/-- The value of a hex digit in either letter case. -/
def hexValue (c : Char) : Nat :=
  if c.isDigit then c.toNat - 48 else if c.isLower then c.toNat - 87 else c.toNat - 55

/-- The number that hex digits stand for. -/
def hexNumber (digits : Str) : Nat := digits.foldl (fun n c => 16 * n + hexValue c) 0

/-- `c` is the digit of value `n`, in lower or in upper case. -/
def IsHexDigitOf (n : Nat) (c : Char) : Prop :=
  n < 16 ∧ (c = Nat.digitChar n ∨ c = (Nat.digitChar n).toUpper)

instance (n : Nat) (c : Char) : Decidable (IsHexDigitOf n c) :=
  inferInstanceAs (Decidable (_ ∧ _))

theorem IsHexDigitOf.read {n : Nat} {c : Char} (h : IsHexDigitOf n c) :
    c.isHexDigit = true ∧ hexValue c = n := by
  have hall : ∀ m ∈ List.range 16, [Nat.digitChar m, (Nat.digitChar m).toUpper].all
      (fun d => d.isHexDigit && decide (hexValue d = m)) = true := by decide
  have hmem : c ∈ [Nat.digitChar n, (Nat.digitChar n).toUpper] := by simpa using h.2
  simpa using List.all_eq_true.mp (hall n (List.mem_range.mpr h.1)) c hmem

/-- Every hex digit is the digit of its value. -/
theorem isHexDigitOf_hexValue {c : Char} (h : c.isHexDigit = true) :
    IsHexDigitOf (hexValue c) c := by
  -- the three ranges, each counted from its first character
  have hfrom : ∀ first count : Nat,
      (∀ n ∈ List.range count,
        IsHexDigitOf (hexValue (Char.ofNat (first + n))) (Char.ofNat (first + n))) →
      first ≤ c.toNat → c.toNat < first + count → IsHexDigitOf (hexValue c) c := by
    intro first count hall hfirst hlast
    have hc := hall (c.toNat - first) (List.mem_range.mpr (by omega))
    rwa [Nat.add_sub_cancel' hfirst, Char.ofNat_toNat] at hc
  rcases isHexDigit_iff.mp h with hdigit | hlower | hupper
  · exact hfrom 48 10 (by decide) hdigit.1 (by omega)
  · exact hfrom 97 6 (by decide) hlower.1 (by omega)
  · exact hfrom 65 6 (by decide) hupper.1 (by omega)

/-- A text that has these digits in this order, and other characters anywhere. -/
inductive Spreads : List Nat → Str → Prop
  | nil : Spreads [] []
  | other {ns : List Nat} {c : Char} {s : Str} (hc : c.isHexDigit = false) (h : Spreads ns s) :
      Spreads ns (c :: s)
  | digit {n : Nat} {ns : List Nat} {c : Char} {s : Str} (hc : IsHexDigitOf n c)
      (h : Spreads ns s) : Spreads (n :: ns) (c :: s)

/-- **Without the other characters, the digits are left.** -/
theorem Spreads.filter {ns : List Nat} {s : Str} (h : Spreads ns s) :
    List.Forall₂ IsHexDigitOf ns (s.filter Char.isHexDigit) := by
  induction h with
  | nil => exact .nil
  | other hc _ ih =>
      rw [List.filter_cons_of_neg (by simp [hc])]
      exact ih
  | digit hc _ ih =>
      rw [List.filter_cons_of_pos hc.read.1]
      exact .cons hc ih

/-- Every text has the digits it has. -/
theorem spreads_filter (s : Str) : Spreads ((s.filter Char.isHexDigit).map hexValue) s := by
  induction s with
  | nil => exact .nil
  | cons c rest ih =>
      by_cases hc : c.isHexDigit = true
      · rw [List.filter_cons_of_pos hc, List.map_cons]
        exact .digit (isHexDigitOf_hexValue hc) ih
      · rw [List.filter_cons_of_neg hc]
        exact .other (by simpa using hc) ih

end Text
