/-
The profile catalogue (`profiles.rs`).

A TLS+ profile is a name for a fingerprint: a browser profile of `wreq-util`,
with or without a platform, or nothing for the profiles that leave wreq's own
handshake alone.  The catalogue is every profile `wreq-util` declares followed by
a fixed table of compatibility aliases, and it is searched by name ignoring ASCII
case, first match first.

`wreq-util` itself is not part of the repository.  What the catalogue uses of it
is the parameter `WreqUtil`; `WreqUtil.Lawful` is what is relied on.
-/
import TlsPlus.Lib.Text

namespace TlsPlus

open Text

/-- What the catalogue uses of `wreq-util`: the declared profiles, the names, the profiles
and platforms that the alias table mentions, and the emulation builder. -/
structure WreqUtil (Profile Platform Emulation : Type) where
  profileName : Profile → Str
  platformName : Platform → Str
  /-- `Profile::VARIANTS` -/
  variants : List Profile
  /-- `Emulation::builder().profile(..).platform(..).build().into_emulation()`, the platform
  left out for `none` -/
  emulate : Profile → Option Platform → Emulation
  chrome149 : Profile
  firefox151 : Profile
  firefox128 : Profile
  safari17_5 : Profile
  edge122 : Profile
  safariIos17_2 : Profile
  ios : Platform
  android : Platform

structure TlsProfile (Profile Platform : Type) where
  name : Str
  description : Str
  wreqProfile : Option Profile
  platform : Option Platform
deriving DecidableEq, Repr

variable {Profile Platform Emulation : Type}

def displayName (name : Str) : Str :=
  let (family, version) := (splitOnce "_" name).getD (name, [])
  let family : Str :=
    if family = "chrome" then "Chrome"
    else if family = "edge" then "Edge"
    else if family = "firefox" then "Firefox"
    else if family = "opera" then "Opera"
    else if family = "safari" then "Safari"
    else if family = "okhttp" then "OkHttp"
    else family
  if version = [] then family
  else family ++ " " ++ version.map fun c => if c = '_' then ' ' else c

namespace TlsProfile

def fromWreq (u : WreqUtil Profile Platform Emulation) (profile : Profile) :
    TlsProfile Profile Platform where
  name := u.profileName profile
  description := displayName (u.profileName profile) ++ " via wreq-util"
  wreqProfile := some profile
  platform := none

def aliasOf (name description : Str) (wreqProfile : Option Profile)
    (platform : Option Platform) : TlsProfile Profile Platform :=
  ⟨name, description, wreqProfile, platform⟩

def emulation (u : WreqUtil Profile Platform Emulation) (p : TlsProfile Profile Platform) :
    Option Emulation :=
  match p.wreqProfile with
  | none => none
  | some profile => some (u.emulate profile p.platform)

/-- The key under which clients of this profile are pooled. -/
def poolKey (u : WreqUtil Profile Platform Emulation) (p : TlsProfile Profile Platform) : Str :=
  match p.wreqProfile, p.platform with
  | some profile, some platform => u.profileName profile ++ "@" ++ u.platformName platform
  | some profile, none => u.profileName profile
  | none, _ => "default"

end TlsProfile

def compatibilityAliases (u : WreqUtil Profile Platform Emulation) :
    List (TlsProfile Profile Platform) :=
  [.aliasOf "chrome_149_stable" "Chrome 149 stable alias" (some u.chrome149) none,
   .aliasOf "firefox_current" "Newest supported Firefox profile" (some u.firefox151) none,
   .aliasOf "firefox_130" "Nearest supported Firefox profile (Firefox 128)"
     (some u.firefox128) none,
   .aliasOf "safari_17" "Nearest supported Safari profile (Safari 17.5)"
     (some u.safari17_5) none,
   .aliasOf "edge_120" "Nearest supported Edge profile (Edge 122)" (some u.edge122) none,
   .aliasOf "ios_safari_17" "iOS Safari 17.2" (some u.safariIos17_2) (some u.ios),
   .aliasOf "android_chrome" "Android Chrome 149" (some u.chrome149) (some u.android),
   .aliasOf "python_urllib3" "Default wreq transport; no Python identity is available" none none,
   .aliasOf "rustls_default" "Default wreq transport; no rustls identity is available" none none,
   .aliasOf "curl_8" "Default wreq transport; no curl identity is available" none none]

/-- The catalogue, `PROFILES`. -/
def profiles (u : WreqUtil Profile Platform Emulation) : List (TlsProfile Profile Platform) :=
  u.variants.map (TlsProfile.fromWreq u) ++ compatibilityAliases u

def byName (u : WreqUtil Profile Platform Emulation) (name : Str) :
    Option (TlsProfile Profile Platform) :=
  (profiles u).find? fun p => eqIgnoreAsciiCase p.name name

def wreqEmulation (u : WreqUtil Profile Platform Emulation) (name : Str) : Option Emulation :=
  (byName u name).bind (TlsProfile.emulation u)

/-- What is relied on of `wreq-util`: a pool key can be read back, and no declared profile
takes a name that TLS+ gives a meaning of its own. -/
structure WreqUtil.Lawful (u : WreqUtil Profile Platform Emulation) : Prop where
  profileName_injective : Function.Injective u.profileName
  platformName_injective : Function.Injective u.platformName
  at_not_mem : ∀ p, '@' ∉ u.profileName p
  ne_default : ∀ p, u.profileName p ≠ "default"
  ne_passThrough : ∀ p, eqIgnoreAsciiCase (u.profileName p) "pass-through" = false
  ne_fallback : ∀ p, eqIgnoreAsciiCase (u.profileName p) "rustls_default" = false

end TlsPlus
