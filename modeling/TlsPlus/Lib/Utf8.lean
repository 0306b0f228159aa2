/-
UTF-8 as a Rust program sees it.

Encoding and the decoding of one well-formed character are the core library's.
`fromUtf8Lossy` is the decoder that never fails: where no character starts it puts
a replacement character and skips the longest prefix that some character could
have started with, which is what `String::from_utf8_lossy` does.
-/
import TlsPlus.Lib.Text

namespace Text

def utf8Encode (s : Str) : List UInt8 := s.flatMap String.utf8EncodeChar

/-- The number of bytes of a text, `str::len`. -/
def byteLength (s : Str) : Nat := (utf8Encode s).length

/-- ASCII characters take one byte each. -/
theorem byteLength_of_ascii {s : Str} (h : ∀ c ∈ s, c.toNat < 128) : byteLength s = s.length := by
  unfold byteLength utf8Encode
  induction s with
  | nil => rfl
  | cons c rest ih =>
      have hone : c.utf8Size = 1 := by
        rw [Char.utf8Size_eq_one_iff, UInt32.le_iff_toNat_le]
        exact Nat.le_of_lt_succ (h c List.mem_cons_self)
      have hrest := ih fun d hd => h d (List.mem_cons_of_mem c hd)
      rw [List.flatMap_cons, List.length_append, hrest, String.length_utf8EncodeChar, hone,
        List.length_cons, Nat.add_comm]

def isContinuation (b : UInt8) : Bool := 0x80 ≤ b && b ≤ 0xBF

/-- Whether some character starts with these two bytes and takes three or more. -/
def startsLongChar (b0 b1 : UInt8) : Bool :=
  (b0 = 0xE0 && 0xA0 ≤ b1 && b1 ≤ 0xBF) || (0xE1 ≤ b0 && b0 ≤ 0xEC && isContinuation b1) ||
    (b0 = 0xED && 0x80 ≤ b1 && b1 ≤ 0x9F) || (0xEE ≤ b0 && b0 ≤ 0xEF && isContinuation b1) ||
    (b0 = 0xF0 && 0x90 ≤ b1 && b1 ≤ 0xBF) || (0xF1 ≤ b0 && b0 ≤ 0xF3 && isContinuation b1) ||
    (b0 = 0xF4 && 0x80 ≤ b1 && b1 ≤ 0x8F)

/-- How many bytes one replacement character stands for, where no character starts. -/
def invalidLength : List UInt8 → Nat
  | b0 :: b1 :: b2 :: _ =>
    if startsLongChar b0 b1 then if 0xF0 ≤ b0 && isContinuation b2 then 3 else 2 else 1
  | [b0, b1] => if startsLongChar b0 b1 then 2 else 1
  | _ => 1

/-- Decodes at most `fuel` characters; each takes at least one byte. -/
def decodeLossy : (fuel : Nat) → List UInt8 → Str
  | 0, _ => []
  | _, [] => []
  | fuel + 1, b :: rest =>
    match ByteArray.utf8DecodeChar? ⟨(b :: rest).toArray⟩ 0 with
    | some c => c :: decodeLossy fuel ((b :: rest).drop c.utf8Size)
    | none => '\uFFFD' :: decodeLossy fuel ((b :: rest).drop (invalidLength (b :: rest)))

def fromUtf8Lossy (bytes : List UInt8) : Str := decodeLossy bytes.length bytes

/-! ### Encoding and decoding -/

theorem utf8DecodeChar?_encoded (c : Char) (rest : List UInt8) :
    ByteArray.utf8DecodeChar? ⟨(String.utf8EncodeChar c ++ rest).toArray⟩ 0 = some c := by
  have h := List.utf8DecodeChar?_utf8Encode_singleton_append (b := ⟨rest.toArray⟩) (c := c)
  rw [List.utf8Encode_singleton] at h
  convert h using 2
  apply ByteArray.ext
  simp

theorem decodeLossy_utf8Encode (s : Str) : ∀ fuel, (utf8Encode s).length ≤ fuel →
    decodeLossy fuel (utf8Encode s) = s := by
  unfold utf8Encode
  induction s with
  | nil =>
      intro fuel _
      cases fuel with
      | zero => rfl
      | succ fuel => rfl
  | cons c rest ih =>
      intro fuel hfuel
      have hdecode := utf8DecodeChar?_encoded c (rest.flatMap String.utf8EncodeChar)
      have hlength := String.length_utf8EncodeChar c
      rw [List.flatMap_cons] at hfuel ⊢
      have hdrop : (String.utf8EncodeChar c ++ rest.flatMap String.utf8EncodeChar).drop c.utf8Size
          = rest.flatMap String.utf8EncodeChar := by
        rw [← hlength, List.drop_left]
      obtain ⟨b, bytes, hbytes⟩ := List.exists_cons_of_ne_nil (String.utf8EncodeChar_ne_nil (c := c))
      rw [hbytes, List.cons_append] at hdecode hdrop hfuel ⊢
      obtain ⟨fuel, rfl⟩ : ∃ k, fuel = k + 1 := ⟨fuel - 1, by simp at hfuel; omega⟩
      rw [decodeLossy, hdecode]
      show c :: _ = _
      rw [hdrop, ih fuel ?_]
      rw [List.length_cons, List.length_append] at hfuel
      omega

/-- **The text of well-formed bytes is theirs.** -/
theorem fromUtf8Lossy_utf8Encode (s : Str) : fromUtf8Lossy (utf8Encode s) = s :=
  decodeLossy_utf8Encode s _ le_rfl

end Text
