/-
JA3 against its published definition.

A JA3 text starts with the wire code of the ClientHello's legacy version.  The
table of the code is off by one for TLS 1.0, 1.1 and 1.2: each is given the code of
its predecessor, so that TLS 1.0 and SSL 3.0 share one.  The lists are rendered as
published, and a JA3 text can be read back (`ja3_decodable`), so this is all there
is to the difference: `ja3_published_iff`.
-/
import TlsPlus.Ja4

namespace TlsPlus

open Text

/-! ### The published text -/

/-- The wire code of the legacy version in the ClientHello of each known version. -/
def legacyVersionCode : TlsVersion → Option Nat
  | .ssl30 => some 768
  | .v10 => some 769
  | .v11 => some 770
  | .v12 => some 771
  | .v13 => some 771
  | .ssl20 => none
  | .unknown _ => none

/-- The numbers of the four lists, in their order. -/
def Signature.lists (sig : Signature) : List (List Nat) :=
  [sig.cipherSuites.map UInt16.toNat, sig.extensions.map UInt16.toNat,
    sig.ellipticCurves.map UInt16.toNat, sig.ellipticCurvePointFormats.map UInt8.toNat]

/-- Five fields with commas between them: the version, and four lists with hyphens. -/
def publishedJa3 (code : Nat) (lists : List (List Nat)) : Str :=
  [','].intercalate (decimal code :: lists.map fun ns => ['-'].intercalate (ns.map decimal))

theorem ja3String_eq (sig : Signature) :
    ja3String sig = publishedJa3 (tlsVersionId sig.version).toNat sig.lists := by
  unfold ja3String publishedJa3 Signature.lists joinDecimals
  simp [List.intercalate_cons_cons]

/-! ### Reading it back -/

private theorem comma_not_mem_field {code : Nat} {lists : List (List Nat)} {field : Str}
    (h : field ∈ decimal code :: lists.map fun ns => ['-'].intercalate (ns.map decimal)) :
    ',' ∉ field := by
  rcases List.mem_cons.mp h with rfl | hmem
  · exact not_mem_decimal (by decide) code
  · obtain ⟨ns, -, rfl⟩ := List.mem_map.mp hmem
    exact not_mem_joinDecimals (by decide) (by decide) ns

theorem splitOn_publishedJa3 (code : Nat) (lists : List (List Nat)) :
    (publishedJa3 code lists).splitOn ','
      = decimal code :: lists.map fun ns => ['-'].intercalate (ns.map decimal) :=
  List.splitOn_intercalate ',' (fun _ => comma_not_mem_field) (by simp)

/-- **The text determines the version code and the lists.** -/
theorem publishedJa3_inj {code code' : Nat} {lists lists' : List (List Nat)} :
    publishedJa3 code lists = publishedJa3 code' lists' ↔ code = code' ∧ lists = lists' := by
  refine ⟨fun h => ?_, fun h => by rw [h.1, h.2]⟩
  have hfields := congrArg (List.splitOn ',') h
  rw [splitOn_publishedJa3, splitOn_publishedJa3, List.cons.injEq] at hfields
  have hjoin : Function.Injective (joinDecimals '-') := joinDecimals_injective (by decide)
  exact ⟨decimal_injective hfields.1, List.map_injective_iff.mpr hjoin hfields.2⟩

theorem lists_eq_iff {sig sig' : Signature} :
    sig.lists = sig'.lists ↔
      sig.cipherSuites = sig'.cipherSuites ∧ sig.extensions = sig'.extensions ∧
        sig.ellipticCurves = sig'.ellipticCurves ∧
        sig.ellipticCurvePointFormats = sig'.ellipticCurvePointFormats := by
  have hshort : Function.Injective (List.map UInt16.toNat) :=
    List.map_injective_iff.mpr fun _ _ => UInt16.toNat_inj.mp
  have hbyte : Function.Injective (List.map UInt8.toNat) :=
    List.map_injective_iff.mpr fun _ _ => UInt8.toNat_inj.mp
  unfold Signature.lists
  rw [List.cons.injEq, List.cons.injEq, List.cons.injEq, List.cons.injEq, hshort.eq_iff,
    hshort.eq_iff, hshort.eq_iff, hbyte.eq_iff, and_iff_left rfl]

/-- **A JA3 text is read back part by part.** It has five fields; the first is the version number,
and each other reads as its list, also if that is empty.  So texts with the same version number
are equal exactly if all four lists are. -/
theorem ja3_decodable (f : Fingerprinting) :
    (∀ sig : Signature, ∃ ciphers extensions groups formats,
      (ja3String sig).splitOn ','
        = [decimal (tlsVersionId sig.version).toNat, ciphers, extensions, groups, formats] ∧
      readDecimals '-' ciphers = some (sig.cipherSuites.map UInt16.toNat) ∧
      readDecimals '-' extensions = some (sig.extensions.map UInt16.toNat) ∧
      readDecimals '-' groups = some (sig.ellipticCurves.map UInt16.toNat) ∧
      readDecimals '-' formats = some (sig.ellipticCurvePointFormats.map UInt8.toNat)) ∧
    (∀ sig sig' : Signature, tlsVersionId sig.version = tlsVersionId sig'.version →
      (ja3String sig = ja3String sig' ↔
        sig.cipherSuites = sig'.cipherSuites ∧ sig.extensions = sig'.extensions ∧
          sig.ellipticCurves = sig'.ellipticCurves ∧
          sig.ellipticCurvePointFormats = sig'.ellipticCurvePointFormats)) ∧
    ∀ packet sig, f.parseTlsClientHello packet = .ok sig →
      (computeJa3FromClientHello f packet).ja3 = some (ja3String sig) := by
  have hread : ∀ ns, readDecimals '-' (joinDecimals '-' ns) = some ns :=
    readDecimals_joinDecimals (by decide)
  refine ⟨fun sig => ?_, fun sig sig' hversion => ?_, fun packet sig hparse => ?_⟩
  · have hsplit := splitOn_publishedJa3 (tlsVersionId sig.version).toNat sig.lists
    rw [← ja3String_eq] at hsplit
    exact ⟨_, _, _, _, hsplit, hread _, hread _, hread _, hread _⟩
  · rw [ja3String_eq, ja3String_eq, publishedJa3_inj, hversion, ← lists_eq_iff, and_iff_right rfl]
  · simp only [computeJa3FromClientHello, hparse]

/-! ### The version table -/

/-- The two versions whose codes the table gives as published. -/
theorem tlsVersionId_eq_iff {version : TlsVersion} {code : Nat}
    (h : legacyVersionCode version = some code) :
    (tlsVersionId version).toNat = code ↔ version = .v13 ∨ version = .ssl30 := by
  cases version with
  | unknown v => exact absurd h (by simp [legacyVersionCode])
  | ssl20 => exact absurd h (by simp [legacyVersionCode])
  | _ =>
      rw [← Option.some.inj h]
      decide

/-- One of the two is SSL 3.0 and the other TLS 1.0. -/
def MixesSsl3AndTls10 (version version' : TlsVersion) : Prop :=
  (version = .ssl30 ∧ version' = .v10) ∨ (version = .v10 ∧ version' = .ssl30)

instance (version version' : TlsVersion) : Decidable (MixesSsl3AndTls10 version version') :=
  inferInstanceAs (Decidable (_ ∨ _))

/-- Known versions of different codes share a number of the table only if they are these. -/
theorem tlsVersionId_collides_iff {version version' : TlsVersion} {code code' : Nat}
    (h : legacyVersionCode version = some code) (h' : legacyVersionCode version' = some code')
    (hne : code ≠ code') :
    (tlsVersionId version).toNat = (tlsVersionId version').toNat ↔
      MixesSsl3AndTls10 version version' := by
  have hcodes : legacyVersionCode version ≠ legacyVersionCode version' := by
    rw [h, h']
    simpa using hne
  cases version with
  | unknown v => exact absurd h (by simp [legacyVersionCode])
  | ssl20 => exact absurd h (by simp [legacyVersionCode])
  | _ =>
      cases version' with
      | unknown v => exact absurd h' (by simp [legacyVersionCode])
      | ssl20 => exact absurd h' (by simp [legacyVersionCode])
      | _ => first | exact absurd rfl hcodes | decide

/-- **JA3 is as published exactly for TLS 1.3 and SSL 3.0**, and signatures of different version
codes share a text exactly if one is SSL 3.0, the other TLS 1.0 and their lists are equal. -/
theorem ja3_published_iff (f : Fingerprinting) :
    (∀ packet sig code, f.parseTlsClientHello packet = .ok sig →
      legacyVersionCode sig.version = some code →
        ((computeJa3FromClientHello f packet).ja3 = some (publishedJa3 code sig.lists) ↔
          sig.version = .v13 ∨ sig.version = .ssl30)) ∧
    ∀ packet packet' sig sig' code code', f.parseTlsClientHello packet = .ok sig →
      f.parseTlsClientHello packet' = .ok sig' → legacyVersionCode sig.version = some code →
        legacyVersionCode sig'.version = some code' → code ≠ code' →
          ((computeJa3FromClientHello f packet).ja3 = (computeJa3FromClientHello f packet').ja3 ↔
            MixesSsl3AndTls10 sig.version sig'.version ∧ sig.lists = sig'.lists) := by
  have hja3 : ∀ packet sig, f.parseTlsClientHello packet = .ok sig →
      (computeJa3FromClientHello f packet).ja3
        = some (publishedJa3 (tlsVersionId sig.version).toNat sig.lists) := by
    intro packet sig hparse
    simp only [computeJa3FromClientHello, hparse, ja3String_eq]
  refine ⟨fun packet sig code hparse hcode => ?_, ?_⟩
  · rw [hja3 packet sig hparse, Option.some.injEq, publishedJa3_inj, and_iff_left rfl]
    exact tlsVersionId_eq_iff hcode
  · intro packet packet' sig sig' code code' hparse hparse' hcode hcode' hne
    rw [hja3 packet sig hparse, hja3 packet' sig' hparse', Option.some.injEq, publishedJa3_inj,
      tlsVersionId_collides_iff hcode hcode' hne]

/-- A parser that reads the version from the first byte, and the same lists always. -/
def sampleFingerprinting : Fingerprinting where
  parseTlsClientHello packet := .ok {
    version := if packet = [0] then .ssl30 else if packet = [1] then .v10 else .v12
    cipherSuites := [49199]
    extensions := [0, 10, 11]
    ellipticCurves := [29]
    ellipticCurvePointFormats := [0] }
  md5Hex _ := []

/-- A TLS 1.2 ClientHello gets the code of TLS 1.1, and SSL 3.0 and TLS 1.0 get one text. -/
theorem ja3_version_off_by_one :
    (computeJa3FromClientHello sampleFingerprinting [2]).ja3
        ≠ some (publishedJa3 771 [[49199], [0, 10, 11], [29], [0]]) ∧
      (computeJa3FromClientHello sampleFingerprinting [0]).ja3
        = (computeJa3FromClientHello sampleFingerprinting [1]).ja3 := by
  decide

end TlsPlus
