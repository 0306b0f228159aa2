/-
What is told of the catalogue (`lib.rs`, `profiles.rs`).

Five labels and the names of the catalogue are offered for choosing, and of a profile
of the catalogue its details are told: the number of its ciphers and its ALPN protocols,
as the options of its emulation have them.  A profile without such options is told of
as wreq's own.
-/
import TlsPlus.Profiles

namespace TlsPlus

open Text

/-- What is read here of an emulation's `tls_options`. -/
structure TlsOptions where
  cipherList : Option Str
  alpnProtocols : Option (List (List UInt8))
deriving DecidableEq, Repr

structure TlsProfileInfo where
  name : Str
  description : Str
  cipherCount : Nat
  alpnProtocols : List Str
deriving DecidableEq, Repr

variable {Profile Platform Emulation : Type}

/-! ### Details -/

/-- The ciphers of an emulation, counted in 32 bits. -/
def cipherCountOf (tlsOptions : Emulation → Option TlsOptions) (emulation : Option Emulation) :
    Nat :=
  match (emulation.bind tlsOptions).bind TlsOptions.cipherList with
  | some ciphers => (ciphers.splitOn ':').length % UInt32.size
  | none => 1

/-- The name of an ALPN protocol, if it is one of the two that are told. -/
def alpnName (protocol : List UInt8) : Option Str :=
  if protocol = [104, 50] then some "h2"
  else if protocol = [104, 116, 116, 112, 47, 49, 46, 49] then some "http/1.1"
  else none

def alpnProtocolsOf (tlsOptions : Emulation → Option TlsOptions) (emulation : Option Emulation) :
    List Str :=
  match (emulation.bind tlsOptions).bind TlsOptions.alpnProtocols with
  | some protocols => protocols.filterMap alpnName
  | none => ["h2", "http/1.1"]

namespace TlsProfile

variable (u : WreqUtil Profile Platform Emulation) (tlsOptions : Emulation → Option TlsOptions)

def cipherCount (p : TlsProfile Profile Platform) : Nat := cipherCountOf tlsOptions (p.emulation u)

def alpnProtocols (p : TlsProfile Profile Platform) : List Str :=
  alpnProtocolsOf tlsOptions (p.emulation u)

end TlsProfile

def getTlsProfile (u : WreqUtil Profile Platform Emulation)
    (tlsOptions : Emulation → Option TlsOptions) (name : Str) : Option TlsProfileInfo :=
  (byName u name).map fun p =>
    ⟨p.name, p.description, p.cipherCount u tlsOptions, p.alpnProtocols u tlsOptions⟩

/-! ### Names -/

def profileNames (u : WreqUtil Profile Platform Emulation) : List Str :=
  (profiles u).map TlsProfile.name

/-- The labels that stand before the catalogue's names. -/
def profileLabels : List Str := ["pass-through", "ja4", "ja4_r", "ja4_o", "ja4_s1"]

def availableProfiles (u : WreqUtil Profile Platform Emulation) : List Str :=
  profileLabels ++ profileNames u

end TlsPlus
