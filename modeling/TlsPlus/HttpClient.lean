/-
The direct client for Rust callers (`http_client.rs`).

A client is asked for by profile name.  The name is brought to its canonical form
first, which is the only place where an unknown name is an error, and the client
is then taken from the shared pool under that form.
-/
import TlsPlus.Transport

namespace TlsPlus

open Text

inductive HttpClientError where
  | unknownProfile (profile : Str)
  | initialization (profile message : Str)
deriving DecidableEq, Repr

/-- A handle on the pooled client of one profile. -/
structure HttpClient (Emulation : Type) where
  profile : Str
  inner : WreqClient Emulation
deriving DecidableEq, Repr

variable {Profile Platform Emulation : Type}

def canonicalProfile (u : WreqUtil Profile Platform Emulation) (profile : Str) :
    Except HttpClientError Str :=
  let profile := trim profile
  if eqIgnoreAsciiCase profile passThroughProfile then .ok passThroughProfile
  else match byName u profile with
    | some p => .ok p.name
    | none => .error (.unknownProfile profile)

/-- `get_passthrough_client`, over what a call of `get_wreq_client` returns. -/
def getPassthroughClient (getWreqClient : Str → Except Str (WreqClient Emulation)) :
    Except Str (WreqClient Emulation) :=
  getWreqClient passThroughProfile

/-- `HttpClient::for_profile`, over what a call of `get_wreq_client` returns. -/
def HttpClient.forProfile (u : WreqUtil Profile Platform Emulation)
    (getWreqClient : Str → Except Str (WreqClient Emulation)) (profile : Str) :
    Except HttpClientError (HttpClient Emulation) :=
  match canonicalProfile u profile with
  | .error e => .error e
  | .ok canonical =>
    let inner :=
      if canonical = passThroughProfile then getPassthroughClient getWreqClient
      else getWreqClient canonical
    match inner with
    | .ok inner => .ok ⟨canonical, inner⟩
    | .error message => .error (.initialization canonical message)

end TlsPlus
