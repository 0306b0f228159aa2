/-
The extension's side of the native core (`core/TlsPlusCore.kt`), as far as it
computes fingerprints.

Every call of the core goes through `withNative`, which has the library loaded first
and turns whatever is thrown, by the loader, the call or the work around it, into
the fallback.  The bytes of a ClientHello come from a text field as hex.
-/
import TlsPlus.Extension.NativeLoader
import TlsPlus.Ja4
import TlsPlus.Lib.Hex

namespace TlsPlus

open Text

variable {α : Type}

structure Ja4Result where
  ok : Bool
  ja4 : Option Str
  ja4R : Option Str
  ja4O : Option Str
  ja4Or : Option Str
  ja4S1 : Option Str
  ja4S1r : Option Str
  sni : Option Str
  alpn : Option Str
  tlsVersion : Option Str
  error : Option Str
  source : Str
deriving DecidableEq, Repr

/-- What is used here of the bindings generated for the native core. -/
structure NativeCore where
  ja3CalculateClientHello : List Int8 → Except Throwable Ja3Result
  ja4CalculateClientHello : List Int8 → Except Throwable Ja4Result

/-- A call of the native core. -/
inductive NativeCall where
  | ja3CalculateClientHello (bytes : List Int8)
  | ja4CalculateClientHello (bytes : List Int8)
deriving DecidableEq, Repr

/-- What a block comes to, and the calls of the core it makes. -/
structure Block (α : Type) where
  result : Except Throwable α
  calls : List NativeCall

/-- What a use of the core comes to, the calls it made and the loader it leaves. -/
structure Computed (α : Type) where
  value : α
  calls : List NativeCall
  loader : NativeLoader

def withNative (paths : LoaderPaths) (w : LoadWorld) (s : NativeLoader) (block : Block α)
    (fallback : Throwable → α) : Computed α :=
  let ensured := ensureLoaded paths w s
  match ensured.result with
  | .error e => ⟨fallback e, [], ensured.loader⟩
  | .ok () =>
    match block.result with
    | .error e => ⟨fallback e, block.calls, ensured.loader⟩
    | .ok value => ⟨value, block.calls, ensured.loader⟩

/-! ### Formatting -/

/-- `buildString` with an `appendLine` for each line. -/
def buildLines (lines : List Str) : Str := lines.flatMap (· ++ ['\n'])

def formatJa3Result (r : Ja3Result) : Str :=
  if !r.ok then buildLines ["JA3 computation FAILED: " ++ r.error.getD "unknown error"]
  else buildLines ["JA3:     " ++ r.ja3.getD "n/a", "JA3 MD5: " ++ r.ja3Hash.getD "n/a"]

def formatJa4Result (r : Ja4Result) : Str :=
  if !r.ok then
    buildLines ["JA4 computation FAILED: " ++ r.error.getD "unknown error", "source: " ++ r.source]
  else
    buildLines [
      "TLS Version: " ++ r.tlsVersion.getD "unknown",
      "SNI: " ++ r.sni.getD "(none)",
      "ALPN: " ++ r.alpn.getD "(none)",
      [],
      "── JA4 Fingerprints ──",
      "JA4:     " ++ r.ja4.getD "n/a",
      "JA4_r:   " ++ r.ja4R.getD "n/a",
      "JA4_o:   " ++ r.ja4O.getD "n/a",
      "JA4_or:  " ++ r.ja4Or.getD "n/a",
      "JA4_s1:  " ++ r.ja4S1.getD "n/a",
      "JA4_s1r: " ++ r.ja4S1r.getD "n/a",
      [],
      "source: " ++ r.source]

/-! ### Fingerprints from hex -/

/-- The bytes of two digits each; a byte above 127 is a negative one. -/
def hexBytes (clean : Str) : List Int8 :=
  (List.range (clean.length / 2)).map fun index =>
    Int8.ofNat (hexNumber ((clean.drop (index * 2)).take 2))

def parseHex (input : Str) : Except Throwable (List Int8) :=
  let clean := input.filter Char.isHexDigit
  if clean.length % 2 = 0 then .ok (hexBytes clean)
  else .error ⟨some "hex input must contain an even number of hex characters"⟩

def computeJa3ClientHello (core : NativeCore) (paths : LoaderPaths) (w : LoadWorld)
    (s : NativeLoader) (hex : Str) : Computed Str :=
  let block : Block Str :=
    match parseHex hex with
    | .error e => ⟨.error e, []⟩
    | .ok bytes =>
      ⟨(core.ja3CalculateClientHello bytes).map formatJa3Result, [.ja3CalculateClientHello bytes]⟩
  withNative paths w s block fun e => "failed to compute JA3: " ++ e.text

def computeClientHelloHex (core : NativeCore) (paths : LoaderPaths) (w : LoadWorld)
    (s : NativeLoader) (hex : Str) : Computed Str :=
  let block : Block Str :=
    match parseHex hex with
    | .error e => ⟨.error e, []⟩
    | .ok bytes =>
      ⟨(core.ja4CalculateClientHello bytes).map formatJa4Result, [.ja4CalculateClientHello bytes]⟩
  withNative paths w s block fun e => "failed to compute JA4 from hex: " ++ e.text

end TlsPlus
