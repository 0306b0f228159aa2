/-
What is shown is the fingerprint of what was pasted.

Between the text in the field and the text on the console lie the thread of the click,
the loading of the library, the reading of the hex, the call of the core, which passes
bytes with a sign, and two results put into words.  `shown_fingerprint` goes the whole
way: a fingerprint that is shown is the core's for the bytes whose dump the field held
when the button was clicked, or says why there is none.
-/
import TlsPlus.Extension.Fingerprints
import TlsPlus.Proofs.Extension.Answers
import TlsPlus.Proofs.Extension.Core

namespace TlsPlus

open Text

variable {Sig : Type} {h : HuginnNetTls Sig} {paths : LoaderPaths} {s₀ s : Tab}
  {events : List TabEvent}

/-! ### Results -/

/-- A result tells everything, or why it does not. -/
inductive Ja4Result.Whole (r : Ja4Result) : Prop
  | told (hok : r.ok = true) (herror : r.error = none) (hversion : r.tlsVersion.isSome = true)
      (hvariants : ∀ variant ∈ [r.ja4, r.ja4R, r.ja4O, r.ja4Or, r.ja4S1, r.ja4S1r],
        variant.isSome = true)
  | refused (hok : r.ok = false) (herror : r.error.isSome = true) (hversion : r.tlsVersion = none)
      (hvariants : ∀ variant ∈ [r.ja4, r.ja4R, r.ja4O, r.ja4Or, r.ja4S1, r.ja4S1r],
        variant = none)

theorem ofError_whole (reason : Str) : (Ja4Result.ofError reason).Whole :=
  .refused rfl rfl rfl (by simp [Ja4Result.ofError])

/-- **Every variant is told or none is.** -/
theorem whole_computeJa4 (h : HuginnNetTls Sig) (packet : List UInt8) :
    (computeJa4FromClientHello h packet).Whole := by
  unfold computeJa4FromClientHello
  cases h.parseTlsClientHello packet with
  | error e => exact ofError_whole _
  | ok sig =>
      cases hversion : versionStr (h.signature sig).version with
      | error v =>
          simp only [hversion]
          exact .refused rfl rfl rfl (by simp [Ja4Result.ofError])
      | ok version =>
          simp only [hversion]
          exact .told rfl rfl rfl (by simp)

/-! ### From a field to the console -/

/-- The digits of a byte, as a dump shows it. -/
def digitsOf (b : UInt8) : List Nat := [b.toNat / 16, b.toNat % 16]

/-- The text is a dump of these bytes: digits in either letter case, and anything between. -/
def Dumps (packet : List UInt8) (text : Str) : Prop := Spreads (packet.flatMap digitsOf) text

theorem dumps_of_parseHex {bytes : List Int8} {text : Str} (hread : parseHex text = .ok bytes) :
    Dumps (bytes.map Int8.toUInt8) text := by
  unfold Dumps
  rw [List.flatMap_map]
  exact parseHex_ok_iff.mp hread

/-- There is no fingerprint, since the text is no dump or the library does not load. -/
def NoFingerprint (paths : LoaderPaths) (lw : LoadWorld) (loader : NativeLoader) (text : Str)
    (e : Throwable) : Prop :=
  parseHex text = .error e ∨ (ensureLoaded paths lw loader).result = .error e

/-- **A use of the core on a text comes to the fingerprint of its bytes.** -/
theorem value_withNative (paths : LoaderPaths) (lw : LoadWorld) (loader : NativeLoader)
    (call : List Int8 → NativeCall) (compute : List UInt8 → Str) (fallback : Throwable → Str)
    (text : Str) :
    let block : Block Str := match parseHex text with
      | .error e => ⟨.error e, []⟩
      | .ok bytes => ⟨.ok (compute (bytes.map Int8.toUInt8)), [call bytes]⟩
    (∃ e, (withNative paths lw loader block fallback).value = fallback e ∧
      NoFingerprint paths lw loader text e) ∨
    ∃ packet, Dumps packet text ∧
      (withNative paths lw loader block fallback).value = compute packet := by
  simp only [withNative]
  cases hloaded : (ensureLoaded paths lw loader).result with
  | error e => exact Or.inl ⟨e, rfl, Or.inr hloaded⟩
  | ok _ =>
      cases hread : parseHex text with
      | error e => exact Or.inl ⟨e, rfl, Or.inl hread⟩
      | ok bytes => exact Or.inr ⟨bytes.map Int8.toUInt8, dumps_of_parseHex hread, rfl⟩

/-- What is to be shown for a text that stood in the field. -/
def ShowsFingerprint (h : HuginnNetTls Sig) (paths : LoaderPaths) (lw : LoadWorld)
    (loader : NativeLoader) (message : Str) : Worker → Prop
  | .computingJa4 text =>
    (∃ e, message = "failed to compute JA4 from hex: " ++ e.text ∧
      NoFingerprint paths lw loader text e) ∨
    ∃ packet, Dumps packet text ∧ message = formatJa4Result (computeJa4FromClientHello h packet)
  | .computingJa3 text =>
    (∃ e, message = "failed to compute JA3: " ++ e.text ∧
      NoFingerprint paths lw loader text e) ∨
    ∃ packet, Dumps packet text ∧
      message = formatJa3Result (computeJa3FromClientHello h.fingerprinting packet)
  | _ => False

theorem showsFingerprint_of_advance {w : CallWorld} (hnative : w.native.toNativeCore = h.nativeCore)
    {shared : Shared} {block : Worker} {message : Str} (herrand : block.errand = .fingerprint)
    (hnot : ∀ update, block ≠ .posting update)
    (hadvance : (block.advance paths w shared).1 = .posting (.fingerprint message)) :
    ShowsFingerprint h paths w.load shared.core.loader message block := by
  cases block with
  | computingJa4 text =>
      have hmessage :
          (computeClientHelloHex h.nativeCore paths w.load shared.core.loader text).value
            = message := by
        rw [← hnative]
        simpa [Worker.advance, leavingServer] using hadvance
      rw [ShowsFingerprint, ← hmessage]
      exact value_withNative paths w.load shared.core.loader .ja4CalculateClientHello
        (fun packet => formatJa4Result (computeJa4FromClientHello h packet)) _ text
  | computingJa3 text =>
      have hmessage :
          (computeJa3ClientHello h.nativeCore paths w.load shared.core.loader text).value
            = message := by
        rw [← hnative]
        simpa [Worker.advance, leavingServer] using hadvance
      rw [ShowsFingerprint, ← hmessage]
      exact value_withNative paths w.load shared.core.loader .ja3CalculateClientHello
        (fun packet => formatJa3Result (computeJa3FromClientHello h.fingerprinting packet)) _ text
  | posting update => exact absurd rfl (hnot update)
  | _ => exact absurd herrand (by simp [Worker.errand])

/-! ### Whole runs -/

theorem block_of_lastAsked {block : Worker} (hlast : lastAsked .fingerprint events = some block) :
    block.errand = .fingerprint ∧ ∀ update, block ≠ .posting update := by
  obtain ⟨event, -, hasks⟩ := List.mem_filterMap.mp (List.mem_of_getLast? hlast)
  cases event with
  | computeJa4 text | computeJa3 text =>
      rw [← Option.some.inj hasks]
      exact ⟨rfl, fun update hposting => absurd hposting (by simp)⟩
  | _ => exact absurd hasks (by simp [TabEvent.asks])

variable {p : Preferences} {loader : NativeLoader} {output : Str}

/-- **What is shown is the fingerprint of what was pasted.**  However the tab was used, a text that
is to be shown for a fingerprint was got for the last *Compute* click, after it, and for the text
that the field held at the click: the core's result for the bytes that text is a dump of, put into
words; or the reason why there is none, which is that the text has an odd number of digits or that
the library did not load then.  A JA4 result tells all variants and the version, or none of them
and why. -/
theorem shown_fingerprint (hnative : ∀ thread w, .worker thread w ∈ events →
      w.native.toNativeCore = h.nativeCore)
    (hrun : (tabMachine paths).run (.init p loader output) events = some s) {message : Str}
    {d : Dispatch Worker Update} (htake : s.dispatch.take = some (.fingerprint message, d)) :
    (s.step paths .update).map Tab.output = some message ∧
    (∃ before thread w after u block, events = before ++ .worker thread w :: after ∧
      (tabMachine paths).run (.init p loader output) before = some u ∧
      lastAsked .fingerprint before = some block ∧
      (∀ e ∈ after, TabEvent.asks .fingerprint e = none) ∧
      ShowsFingerprint h paths w.load u.shared.core.loader message block) ∧
    ∀ packet, (computeJa4FromClientHello h packet).Whole := by
  refine ⟨?_, ?_, whole_computeJa4 h⟩
  · show (s.dispatch.take.map _).map Tab.output = some message
    rw [htake]
    rfl
  · obtain ⟨before, thread, w, after, u, block, hevents, hbefore, -, hlast, hafter, hadvance⟩ :=
      answersLast_of_take hrun htake
    obtain ⟨herrand, hnot⟩ := block_of_lastAsked hlast
    have hw : w.native.toNativeCore = h.nativeCore := hnative thread w (by simp [hevents])
    exact ⟨before, thread, w, after, u, block, hevents, hbefore, hlast, hafter,
      showsFingerprint_of_advance hw herrand hnot hadvance⟩

/-- A parser that knows one ClientHello. -/
def sampleHuginn : HuginnNetTls Unit where
  parseTlsClientHello packet := if packet = [0x16, 0x03] then .ok () else .error "not a ClientHello"
  signature _ := ⟨.v13, [0x1301], [0], [29], [0]⟩
  sni _ := none
  alpn _ := some "h2"
  generateJa4 _ := ⟨"t13i0100", "t13i0100_1301"⟩
  generateJa4Original _ := ⟨"t13i0100", "t13i0100_1301"⟩
  generateJa4StableV1 _ := ⟨"t13i0100", "t13i0100_1301"⟩
  md5Hex _ := "00"

def fingerprintCall : CallWorld :=
  { sampleCall with native := { sampleLibrary with toNativeCore := sampleHuginn.nativeCore } }

/-- A dump is pasted with a colon and a line break in it. -/
def pastedDump : List TabEvent :=
  [.computeJa4 "16:0\n3", .worker 1 fingerprintCall, .worker 1 fingerprintCall]

theorem shown_fingerprint_dump : ∃ s message,
    (tabMachine samplePaths).run (.init .empty ⟨false, none⟩ []) pastedDump = some s ∧
      (s.step samplePaths .update).map Tab.output = some message ∧
      ∃ lw loader block, ShowsFingerprint sampleHuginn samplePaths lw loader message block := by
  obtain ⟨s, hrun⟩ : ∃ s, (tabMachine samplePaths).run (.init .empty ⟨false, none⟩ []) pastedDump
      = some s := ⟨_, rfl⟩
  obtain ⟨message, d, htake⟩ : ∃ message d, s.dispatch.take = some (.fingerprint message, d) :=
    ⟨_, _, by rw [← Option.some.inj hrun]; rfl⟩
  have hnative : ∀ thread w, .worker thread w ∈ pastedDump →
      w.native.toNativeCore = sampleHuginn.nativeCore := by
    intro thread w hmem
    simp only [pastedDump, List.mem_cons, List.not_mem_nil, or_false, reduceCtorEq, false_or,
      TabEvent.worker.injEq] at hmem
    rcases hmem with ⟨-, rfl⟩ | ⟨-, rfl⟩ <;> rfl
  obtain ⟨houtput, ⟨_, _, w, _, u, block, -, -, -, -, hshows⟩, -⟩ :=
    shown_fingerprint hnative hrun htake
  exact ⟨s, message, hrun, houtput, w.load, u.shared.core.loader, block, hshows⟩

end TlsPlus
