/-
An address that the server prints is read back.

The server starts where its address parses to, and what it is then found at it prints.
`parseSocketAddr_display` says that the text of an address it runs at parses to this
very address, so that a text stored once can be started from again.

A number is read as far as its digits go, so all that is asked of the text after it is
that no digit follows (`EndsNumber`).
-/
import TlsPlus.Net.Parse
import TlsPlus.Proofs.Extension.Endpoint

namespace TlsPlus

open Text

namespace NetParser

/-- No digit stands at the front. -/
def EndsNumber (rest : Str) : Prop := ∀ c ∈ rest.head?, c.isDigit = false

theorem toDigit_of_isDigit {c : Char} (h : c.isDigit = true) :
    toDigit 10 c = some (c.toNat - 48) := by
  have hrange := isDigit_iff.mp h
  unfold toDigit
  rw [if_pos h]
  exact if_pos (by omega)

theorem toDigit_of_not_isDigit {c : Char} (h : c.isDigit = false) : toDigit 10 c = none := by
  have hnot : ¬c.isDigit = true := by
    rw [h]
    exact Bool.false_ne_true
  unfold toDigit
  rw [if_neg hnot]
  by_cases halpha : c.isAlpha = true
  · rw [if_pos halpha]
    refine if_neg ?_
    -- letters count from ten
    have hcase : c.isUpper = true ∨ c.isLower = true := (Bool.or_eq_true _ _).mp halpha
    have hlower := toNat_toLower c
    rcases hcase with hupper | hlow
    · have hrange := isUpper_iff.mp hupper
      rw [if_pos (by omega)] at hlower
      omega
    · have hrange := isLower_iff.mp hlow
      rw [if_neg (by omega)] at hlower
      omega
  · rw [if_neg halpha]
    exact if_neg (Nat.lt_irrefl 10)

theorem isSome_toDigit (c : Char) : (toDigit 10 c).isSome = c.isDigit := by
  by_cases h : c.isDigit = true
  · rw [toDigit_of_isDigit h, h]
    rfl
  · rw [Bool.not_eq_true] at h
    rw [toDigit_of_not_isDigit h, h]
    rfl

/-- The digits are taken, and nothing else. -/
theorem takeWhile_digits {digits rest : Str} (hdigits : ∀ c ∈ digits, c.isDigit = true)
    (hrest : EndsNumber rest) :
    (digits ++ rest).takeWhile (fun c => (toDigit 10 c).isSome) = digits := by
  simp only [isSome_toDigit]
  rw [List.takeWhile_append_of_pos hdigits]
  cases rest with
  | nil => simp
  | cons c rest =>
      have hnot : ¬c.isDigit = true := by
        rw [hrest c rfl]
        exact Bool.false_ne_true
      rw [List.takeWhile_cons_of_neg hnot, List.append_nil]

theorem foldl_digits : ∀ {digits : Str} (n : Nat), (∀ c ∈ digits, c.isDigit = true) →
    (digits.filterMap (toDigit 10)).foldl (fun n digit => n * 10 + digit) n
      = Nat.ofDigitChars 10 digits n := by
  intro digits
  induction digits with
  | nil => exact fun n _ => Nat.ofDigitChars_nil.symm
  | cons c rest ih =>
      intro n hdigits
      rw [List.filterMap_cons_some (toDigit_of_isDigit (hdigits c List.mem_cons_self)),
        List.foldl_cons, ih _ fun d hd => hdigits d (List.mem_cons_of_mem c hd),
        Nat.ofDigitChars_cons, Nat.mul_comm]
      rfl

/-- **A decimal is read back**, if it is small enough and short enough, and if a leading zero, where
none may stand, is all there is. -/
theorem readNumber_decimal {n bound : Nat} {maxDigits : Option Nat} {allowZeroPrefix : Bool}
    {rest : Str} (hbound : n < bound) (hshort : ∀ m ∈ maxDigits, (decimal n).length ≤ m)
    (hzero : allowZeroPrefix = true ∨
      ((decimal n).head? = some '0' → (decimal n).length = 1)) (hrest : EndsNumber rest) :
    readNumber 10 bound maxDigits allowZeroPrefix (decimal n ++ rest) = some (n, rest) := by
  have hdigits : ∀ c ∈ decimal n, c.isDigit = true := fun c hc => isDigit_of_mem_decimal hc
  have hvalue : Nat.ofDigitChars 10 (decimal n) 0 = n := by simp [decimal]
  unfold readNumber
  simp only [takeWhile_digits hdigits hrest, foldl_digits 0 hdigits, hvalue, List.drop_left]
  refine if_neg ?_
  rintro (hnil | hlong | ⟨hstrict, hhead, hmore⟩ | hlarge)
  · exact decimal_ne_nil n hnil
  · cases maxDigits with
    | none => exact absurd hlong (by simp)
    | some m =>
        have hm : m < (decimal n).length := of_decide_eq_true hlong
        have hle := hshort m rfl
        omega
  · rcases hzero with hallowed | honly
    · rw [hallowed] at hstrict
      exact absurd hstrict (by simp)
    · have hone := honly hhead
      omega
  · omega

/-! ### Addresses -/

/-- No decimal has a leading zero but that of 0. -/
theorem eq_zero_of_head_decimal (n : Nat) : (decimal n).head? = some '0' → n = 0 := by
  induction n using Nat.strong_induction_on with
  | h n ih =>
      intro h
      unfold decimal at h
      by_cases hsmall : n < 10
      · have hchars : ∀ m < 10, Nat.digitChar m = '0' → m = 0 := by decide
        rw [Nat.toDigits_of_lt_base hsmall] at h
        exact hchars n hsmall (Option.some.inj h)
      · have hfront : (decimal (n / 10)).head? = some '0' := by
          rw [Nat.toDigits_of_base_le (by decide) (by omega),
            List.head?_append_of_ne_nil _ Nat.toDigits_ne_nil] at h
          exact h
        have hzero := ih (n / 10) (by omega) hfront
        omega

theorem decimal_octet {n : Nat} (hn : n < 256) : (decimal n).length ≤ 3 ∧
    ((decimal n).head? = some '0' → (decimal n).length = 1) := by
  constructor
  · exact (Nat.length_toDigits_le_iff (by decide) (by decide)).mpr (by omega)
  · intro hhead
    rw [eq_zero_of_head_decimal n hhead]
    rfl

theorem readNumber_octet (a : UInt8) {rest : Str} (hrest : EndsNumber rest) :
    readNumber 10 256 (some 3) false (decimal a.toNat ++ rest) = some (a.toNat, rest) := by
  have ha : a.toNat < 256 := a.toNat_lt
  obtain ⟨hlength, hzero⟩ := decimal_octet ha
  exact readNumber_decimal ha (fun m hm => Option.some.inj hm ▸ hlength) (Or.inr hzero) hrest

theorem endsNumber_cons {c : Char} (h : c.isDigit = false) (rest : Str) : EndsNumber (c :: rest) :=
  fun _ hd => Option.some.inj hd ▸ h

theorem readOctet_succ (i : Nat) (a : UInt8) {rest : Str} (hrest : EndsNumber rest) :
    readOctet (i + 1) ('.' :: (decimal a.toNat ++ rest)) = some (a.toNat, rest) := by
  show (some (decimal a.toNat ++ rest)).bind (readNumber 10 256 (some 3) false) = _
  exact readNumber_octet a hrest

theorem readIpv4Addr_displayV4 (a b c d : UInt8) {rest : Str} (hrest : EndsNumber rest) :
    readIpv4Addr (IpAddr.displayV4 a b c d ++ rest) = some ((a, b, c, d), rest) := by
  have hdot : ∀ s, EndsNumber ('.' :: s) := endsNumber_cons (by decide)
  have htext : IpAddr.displayV4 a b c d ++ rest
      = decimal a.toNat ++ '.' :: (decimal b.toNat ++ '.' :: (decimal c.toNat ++
        '.' :: (decimal d.toNat ++ rest))) := by
    simp [IpAddr.displayV4]
  have hfirst : readOctet 0 (decimal a.toNat ++ '.' :: (decimal b.toNat ++ '.' ::
      (decimal c.toNat ++ '.' :: (decimal d.toNat ++ rest)))) = some (a.toNat, _) :=
    readNumber_octet a (hdot _)
  rw [htext]
  unfold readIpv4Addr
  simp only [hfirst, readOctet_succ _ b (hdot _), readOctet_succ _ c (hdot _),
    readOctet_succ _ d hrest, Option.bind_eq_bind, Option.bind_some, UInt8.ofNat_toNat]
  rfl

theorem readPort_decimal (port : UInt16) :
    readPort (':' :: decimal port.toNat) = some (port.toNat, []) := by
  have hport : port.toNat < 65536 := port.toNat_lt
  have hread : readNumber 10 65536 none true (decimal port.toNat ++ []) = some (port.toNat, []) :=
    readNumber_decimal hport (fun m hm => absurd hm (by simp)) (Or.inl rfl)
      (fun c hc => absurd hc (by simp))
  rw [List.append_nil] at hread
  exact hread

end NetParser

open NetParser

/-- **The address of a server is read back from its text.** -/
theorem parseSocketAddr_display {addr : SocketAddr} (h : addr.Listens) :
    parseSocketAddr addr.display = .ok addr := by
  obtain ⟨ip, port⟩ := addr
  cases ip with
  | v4 a b c d =>
      have htext : SocketAddr.display ⟨.v4 a b c d, port⟩
          = IpAddr.displayV4 a b c d ++ ':' :: decimal port.toNat := by
        simp [SocketAddr.display]
      have hread : readSocketAddrV4 (IpAddr.displayV4 a b c d ++ ':' :: decimal port.toNat)
          = some (⟨.v4 a b c d, port⟩, []) := by
        have hends : EndsNumber (':' :: decimal port.toNat) := endsNumber_cons (by decide) _
        unfold readSocketAddrV4
        simp [readIpv4Addr_displayV4 a b c d hends, readPort_decimal]
      rw [htext, parseSocketAddr, hread]
      rfl
  | v6 segments scopeId =>
      have hscope : scopeId = 0 := h.unscoped segments scopeId rfl
      have hsegments : segments = #v[0, 0, 0, 0, 0, 0, 0, 1] :=
        Vector.toList_inj.mp (of_decide_eq_true h.loopback)
      have htext : SocketAddr.display ⟨.v6 segments scopeId, port⟩
          = ("[::1]" : Str) ++ ':' :: decimal port.toNat := by
        rw [hscope, hsegments]
        rfl
      have hfour : readSocketAddrV4 (("[::1]" : Str) ++ ':' :: decimal port.toNat) = none := rfl
      have hsix : readSocketAddrV6 (("[::1]" : Str) ++ ':' :: decimal port.toNat)
          = (readPort (':' :: decimal port.toNat)).bind fun read =>
            some (⟨.v6 #v[0, 0, 0, 0, 0, 0, 0, 1] 0, UInt16.ofNat read.1⟩, read.2) := rfl
      rw [htext, parseSocketAddr, hfour, hsix, readPort_decimal, hsegments, hscope]
      simp

end TlsPlus
