/-
The shared pool of wreq clients (`transport.rs`).

`get_wreq_client` resolves a profile name three ways: to a catalogue entry, to
the entry's own name (`canonical`), under which the client is built by a second
lookup, and to its pool key, under which the client is cached.  The cache is read
under its lock, the client built with the lock released, and entered under the
lock again; that protocol is the one of `Lib/BuildCache.lean`, at the types here.
-/
import TlsPlus.Profiles
import TlsPlus.Lib.BuildCache

namespace TlsPlus

open Text

variable {Profile Platform Emulation : Type}

def passThroughProfile : Str := "pass-through"
def fallbackProfile : Str := "rustls_default"
def connectTimeoutSecs : Nat := 10
def poolIdleTimeoutSecs : Nat := 90
def maxIdlePerHost : Nat := 32

/-- A built client: its identity as an allocation, and what its builder was told. -/
structure WreqClient (Emulation : Type) where
  id : Nat
  emulation : Option Emulation
  noProxy : Bool
  connectTimeoutSecs : Nat
  poolIdleTimeoutSecs : Nat
  poolMaxIdlePerHost : Nat
  retries : Bool
  redirects : Bool
deriving DecidableEq, Repr

/-- Builds a client for a profile name.  `outcome` is what the connector makes of the
builder: a new allocation, or an error. -/
def buildWreqClient (u : WreqUtil Profile Platform Emulation) (profileName : Str)
    (outcome : Except Str Nat) : Except Str (WreqClient Emulation) :=
  match outcome with
  | .ok id => .ok {
      id := id
      emulation := wreqEmulation u profileName
      noProxy := true
      connectTimeoutSecs := connectTimeoutSecs
      poolIdleTimeoutSecs := poolIdleTimeoutSecs
      poolMaxIdlePerHost := maxIdlePerHost
      retries := false
      redirects := false }
  | .error e =>
    .error ("failed to build wreq client for profile '" ++ profileName ++ "': " ++ e)

/-- The catalogue entry a name is served by; none for the pass-through label. -/
def resolveProfile (u : WreqUtil Profile Platform Emulation) (profileName : Str) :
    Option (TlsProfile Profile Platform) :=
  if eqIgnoreAsciiCase profileName passThroughProfile then none
  else (byName u profileName).or (byName u fallbackProfile)

def canonicalName (u : WreqUtil Profile Platform Emulation) (profileName : Str) : Str :=
  ((resolveProfile u profileName).map TlsProfile.name).getD passThroughProfile

def clientPoolKey (u : WreqUtil Profile Platform Emulation) (profileName : Str) : Str :=
  ((resolveProfile u profileName).map (TlsProfile.poolKey u)).getD "default"

/-- `get_wreq_client`: calls are keyed by pool key and build under the canonical name. -/
def getWreqClient (u : WreqUtil Profile Platform Emulation) :
    BuildCache.Protocol Str Str (WreqClient Emulation) Str (Except Str Nat) where
  key := clientPoolKey u
  build profileName outcome := buildWreqClient u (canonicalName u profileName) outcome

end TlsPlus
