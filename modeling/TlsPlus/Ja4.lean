/-
JA3 fingerprints (`ja4.rs`).

The ClientHello is parsed and the text hashed by other crates; what is done here is
to write the parsed signature out: a number for the version and the four lists as
decimals.
-/
import TlsPlus.Lib.Utf8

namespace TlsPlus

open Text

inductive TlsVersion where
  | v13 | v12 | v11 | v10 | ssl30 | ssl20
  | unknown (code : UInt16)
deriving DecidableEq, Repr

/-- What is used of a parsed ClientHello. -/
structure Signature where
  version : TlsVersion
  cipherSuites : List UInt16
  extensions : List UInt16
  ellipticCurves : List UInt16
  ellipticCurvePointFormats : List UInt8
deriving DecidableEq, Repr

/-- What is used of `huginn-net-tls` and `md5`. -/
structure Fingerprinting where
  parseTlsClientHello : List UInt8 → Except Str Signature
  md5Hex : List UInt8 → Str

structure Ja3Result where
  ok : Bool
  ja3 : Option Str
  ja3Hash : Option Str
  error : Option Str
deriving DecidableEq, Repr

def Ja3Result.ofError (reason : Str) : Ja3Result := ⟨false, none, none, some reason⟩

def tlsVersionId : TlsVersion → UInt16
  | .v13 => 771
  | .v12 => 770
  | .v11 => 769
  | .v10 => 768
  | .ssl30 => 768
  | .ssl20 => 767
  | .unknown v => v

def ja3String (sig : Signature) : Str :=
  let ciphersStr := joinDecimals '-' (sig.cipherSuites.map UInt16.toNat)
  let extensionsStr := joinDecimals '-' (sig.extensions.map UInt16.toNat)
  let curvesStr := joinDecimals '-' (sig.ellipticCurves.map UInt16.toNat)
  let pointFormatsStr := joinDecimals '-' (sig.ellipticCurvePointFormats.map UInt8.toNat)
  decimal (tlsVersionId sig.version).toNat ++ "," ++ ciphersStr ++ "," ++ extensionsStr ++ "," ++
    curvesStr ++ "," ++ pointFormatsStr

def computeJa3FromClientHello (f : Fingerprinting) (packet : List UInt8) : Ja3Result :=
  match f.parseTlsClientHello packet with
  | .error e => .ofError ("Failed to parse ClientHello for JA3: " ++ e)
  | .ok sig =>
    { ok := true
      ja3 := some (ja3String sig)
      ja3Hash := some (f.md5Hex (utf8Encode (ja3String sig)))
      error := none }

end TlsPlus
