/-
Hex dumps are read back.

`parseHex` drops what is no hex digit and pairs the rest by position, so it does not
matter where the other characters stood, not even between the two digits of a byte.
`hexBytes_cons` turns the positions into a recursion on pairs, and the induction is
on the bytes.

A text with an odd number of digits is refused before the core is called, which the
record of the calls shows.
-/
import TlsPlus.Extension.Core

namespace TlsPlus

open Text

/-! ### Pairs of digits -/

/-- The two digits of a byte, as the dump of a byte array shows it: without a sign. -/
def nibbles (b : Int8) : List Nat := [b.toUInt8.toNat / 16, b.toUInt8.toNat % 16]

/-- Positions counted from the second pair on are positions in the rest. -/
theorem hexBytes_cons (a b : Char) (rest : Str) :
    hexBytes (a :: b :: rest) = Int8.ofNat (hexNumber [a, b]) :: hexBytes rest := by
  have hlength : (a :: b :: rest).length / 2 = rest.length / 2 + 1 := by
    rw [List.length_cons, List.length_cons]
    omega
  unfold hexBytes
  rw [hlength, List.range_succ_eq_map, List.map_cons, List.map_map]
  congr 1
  refine List.map_congr_left fun index _ => ?_
  have hposition : (index + 1) * 2 = index * 2 + 1 + 1 := by omega
  show Int8.ofNat (hexNumber (((a :: b :: rest).drop ((index + 1) * 2)).take 2)) = _
  rw [hposition, List.drop_succ_cons, List.drop_succ_cons]

theorem hexNumber_pair {m n : Nat} {a b : Char} (ha : IsHexDigitOf m a) (hb : IsHexDigitOf n b) :
    hexNumber [a, b] = 16 * m + n := by
  simp [hexNumber, ha.read.2, hb.read.2]

/-- A byte is what its two digits say, also above 127. -/
theorem ofNat_nibbles (b : Int8) :
    Int8.ofNat (16 * (b.toUInt8.toNat / 16) + b.toUInt8.toNat % 16) = b := by
  rw [Nat.div_add_mod]
  show Int8.ofUInt8 (UInt8.ofNat b.toUInt8.toNat) = b
  rw [UInt8.ofNat_toNat]

/-- **The digits of bytes are read as the bytes.** -/
theorem hexBytes_digits (bytes : List Int8) :
    ∀ {clean : Str}, List.Forall₂ IsHexDigitOf (bytes.flatMap nibbles) clean →
      clean.length % 2 = 0 ∧ hexBytes clean = bytes := by
  induction bytes with
  | nil =>
      intro clean h
      cases h
      exact ⟨rfl, rfl⟩
  | cons byte rest ih =>
      intro clean h
      rw [List.flatMap_cons] at h
      cases h with
      | cons ha h =>
          cases h with
          | cons hb h =>
              obtain ⟨heven, hread⟩ := ih h
              refine ⟨?_, ?_⟩
              · rw [List.length_cons, List.length_cons]
                omega
              · rw [hexBytes_cons, hexNumber_pair ha hb, ofNat_nibbles, hread]

theorem nibbles_ofNat {m n : Nat} (hm : m < 16) (hn : n < 16) :
    nibbles (Int8.ofNat (16 * m + n)) = [m, n] := by
  have hbyte : (Int8.ofNat (16 * m + n)).toUInt8.toNat = 16 * m + n := by
    show (UInt8.ofNat (16 * m + n)).toNat = _
    rw [UInt8.toNat_ofNat']
    exact Nat.mod_eq_of_lt (by omega)
  unfold nibbles
  rw [hbyte]
  congr 1
  · omega
  · congr 1
    omega

/-- The bytes that an even number of digits is read as have these digits. -/
theorem digits_hexBytes : ∀ {clean : Str}, clean.length % 2 = 0 →
    (∀ c ∈ clean, c.isHexDigit = true) →
      (hexBytes clean).flatMap nibbles = clean.map hexValue
  | [], _, _ => rfl
  | [c], heven, _ => absurd heven (by simp)
  | a :: b :: rest, heven, hall => by
      have ha := isHexDigitOf_hexValue (hall a (by simp))
      have hb := isHexDigitOf_hexValue (hall b (by simp))
      have hrest : rest.length % 2 = 0 := by
        rw [List.length_cons, List.length_cons] at heven
        omega
      rw [hexBytes_cons, hexNumber_pair ha hb, List.flatMap_cons, nibbles_ofNat ha.1 hb.1,
        digits_hexBytes hrest fun c hc => hall c (by simp [hc])]
      rfl

/-- **The texts that are read as given bytes are their dumps.** -/
theorem parseHex_ok_iff {bytes : List Int8} {text : Str} :
    parseHex text = .ok bytes ↔ Spreads (bytes.flatMap nibbles) text := by
  unfold parseHex
  constructor
  · intro h
    simp only at h
    split at h
    · rename_i heven
      have hdigits := digits_hexBytes heven fun c hc => (List.mem_filter.mp hc).2
      rw [Except.ok.inj h] at hdigits
      rw [hdigits]
      exact spreads_filter text
    · exact absurd h (by simp)
  · intro h
    obtain ⟨heven, hread⟩ := hexBytes_digits bytes h.filter
    simp only [if_pos heven, hread]

/-! ### Refused texts -/

theorem parseHex_error_iff {text : Str} :
    (∃ e, parseHex text = .error e) ↔ text.countP Char.isHexDigit % 2 = 1 := by
  rw [List.countP_eq_length_filter]
  unfold parseHex
  by_cases heven : (text.filter Char.isHexDigit).length % 2 = 0
  · simp only [if_pos heven]
    exact iff_of_false (by simp) (by omega)
  · simp only [if_neg heven]
    exact iff_of_true ⟨_, rfl⟩ (by omega)

/-- A use of the core makes the calls of its block, if the library is loaded, and none else. -/
theorem calls_withNative {α : Type} (paths : LoaderPaths) (w : LoadWorld) (s : NativeLoader)
    (block : Block α) (fallback : Throwable → α) :
    (withNative paths w s block fallback).calls
      = if (ensureLoaded paths w s).result.isOk then block.calls else [] := by
  unfold withNative
  simp only
  cases (ensureLoaded paths w s).result with
  | error e => rfl
  | ok _ =>
      cases block.result with
      | error e => rfl
      | ok value => rfl

/-- Neither function calls the core for a text that is refused. -/
theorem calls_of_error {text : Str} (h : ∃ e, parseHex text = .error e) (core : NativeCore)
    (paths : LoaderPaths) (w : LoadWorld) (s : NativeLoader) :
    (computeJa3ClientHello core paths w s text).calls = [] ∧
      (computeClientHelloHex core paths w s text).calls = [] := by
  obtain ⟨e, he⟩ := h
  unfold computeJa3ClientHello computeClientHelloHex
  rw [he, calls_withNative, calls_withNative]
  exact ⟨ite_self [], ite_self []⟩

/-- **Reading hex undoes dumping it.** A text is read as given bytes exactly if it is a dump of
them, with digits in either letter case and other characters anywhere.  It is refused exactly if
the number of its digits is odd, and then neither function calls the core. -/
theorem hex_dump_read :
    (∀ (bytes : List Int8) (text : Str),
      parseHex text = .ok bytes ↔ Spreads (bytes.flatMap nibbles) text) ∧
    ∀ text : Str,
      ((∃ e, parseHex text = .error e) ↔ text.countP Char.isHexDigit % 2 = 1) ∧
      (text.countP Char.isHexDigit % 2 = 1 → ∀ core paths w s,
        (computeJa3ClientHello core paths w s text).calls = [] ∧
          (computeClientHelloHex core paths w s text).calls = []) :=
  ⟨fun _ _ => parseHex_ok_iff,
    fun _ => ⟨parseHex_error_iff, fun hodd => calls_of_error (parseHex_error_iff.mpr hodd)⟩⟩

/-- Separators, either case, and a byte that is split and above 127. -/
example : parseHex "0xF\nf: 7E" = .error ⟨some
    "hex input must contain an even number of hex characters"⟩ ∧
    parseHex "F\nf: 7E" = .ok [-1, 126] := by
  decide

end TlsPlus
