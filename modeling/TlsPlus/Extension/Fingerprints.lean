/-
Fingerprints as the native core computes them (`ja4.rs`, `lib.rs`).

Parsing a ClientHello, the JA4 variants and hashing are those of other crates.  What is
done here is to ask for every variant, to name the version, and to refuse a version that
is not known, of which the name asked for and the protocols offered are still told.
-/
import TlsPlus.Extension.Core

namespace TlsPlus

open Text

/-- A JA4 variant, hashed and raw. -/
structure Ja4Payload where
  full : Str
  raw : Str

/-- What is used of `huginn-net-tls` and `md5`.  `Sig` is a parsed ClientHello, and `signature` the
part of it that JA3 is made of. -/
structure HuginnNetTls (Sig : Type) where
  parseTlsClientHello : List UInt8 → Except Str Sig
  signature : Sig → Signature
  sni : Sig → Option Str
  alpn : Sig → Option Str
  generateJa4 : Sig → Ja4Payload
  generateJa4Original : Sig → Ja4Payload
  generateJa4StableV1 : Sig → Ja4Payload
  md5Hex : List UInt8 → Str

variable {Sig : Type}

def HuginnNetTls.fingerprinting (h : HuginnNetTls Sig) : Fingerprinting where
  parseTlsClientHello packet := (h.parseTlsClientHello packet).map h.signature
  md5Hex := h.md5Hex

/-- `{v:#06x}` -/
def hex06 (v : UInt16) : Str :=
  let digits := Nat.toDigits 16 v.toNat
  "0x" ++ List.replicate (4 - digits.length) '0' ++ digits

def Ja4Result.ofError (reason : Str) : Ja4Result where
  ok := false
  ja4 := none
  ja4R := none
  ja4O := none
  ja4Or := none
  ja4S1 := none
  ja4S1r := none
  sni := none
  alpn := none
  tlsVersion := none
  error := some reason
  source := "huginn-net-tls"

/-- The version as it is shown, or the code of one that is not known. -/
def versionStr : TlsVersion → Except UInt16 Str
  | .v13 => .ok "TLS 1.3"
  | .v12 => .ok "TLS 1.2"
  | .v11 => .ok "TLS 1.1"
  | .v10 => .ok "TLS 1.0"
  | .ssl30 => .ok "SSL 3.0"
  | .ssl20 => .ok "SSL 2.0"
  | .unknown v => .error v

def computeJa4FromClientHello (h : HuginnNetTls Sig) (packet : List UInt8) : Ja4Result :=
  match h.parseTlsClientHello packet with
  | .error e => .ofError ("Failed to parse ClientHello: " ++ e)
  | .ok sig =>
    let sorted := h.generateJa4 sig
    let original := h.generateJa4Original sig
    let stable := h.generateJa4StableV1 sig
    match versionStr (h.signature sig).version with
    | .error v =>
      { Ja4Result.ofError ("Unknown TLS version: " ++ hex06 v) with
        sni := h.sni sig
        alpn := h.alpn sig }
    | .ok version =>
      { ok := true
        ja4 := some sorted.full
        ja4R := some sorted.raw
        ja4O := some original.full
        ja4Or := some original.raw
        ja4S1 := some stable.full
        ja4S1r := some stable.raw
        sni := h.sni sig
        alpn := h.alpn sig
        tlsVersion := some version
        error := none
        source := "huginn-net-tls" }

/-- `ja3_calculate_client_hello` and `ja4_calculate_client_hello`, as the bindings call them. -/
def HuginnNetTls.nativeCore (h : HuginnNetTls Sig) : NativeCore where
  ja3CalculateClientHello bytes :=
    .ok (computeJa3FromClientHello h.fingerprinting (bytes.map Int8.toUInt8))
  ja4CalculateClientHello bytes := .ok (computeJa4FromClientHello h (bytes.map Int8.toUInt8))

example : [hex06 0x7f1c, hex06 0x0a, hex06 0] = (["0x7f1c", "0x000a", "0x0000"] : List Str) := by
  decide

end TlsPlus
