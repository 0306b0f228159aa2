/-
The settings of the Burp extension (`settings/ExtensionSettings.kt`).

Burp keeps an extension's preferences under text keys, one store for each type of
value.  `ExtensionSettings` is a view of that store: four properties, each with its
key and the default that stands for an absent value.  The values of all four taken
together are `Settings`, and setting a property changes its own value there and no
other, since the keys differ.
-/
import Mathlib.Data.List.AList
import TlsPlus.Lib.Text

namespace TlsPlus

open Text

/-- What the extension uses of Burp's `Preferences`. -/
structure Preferences where
  booleans : AList fun _ : Str => Bool
  strings : AList fun _ : Str => Str

/-- Preferences that were never written. -/
def Preferences.empty : Preferences := ⟨∅, ∅⟩

def keyPassThroughOnly : Str := "tlsplus.passThroughOnly"
def keyPreserveHeaderOrder : Str := "tlsplus.preserveHeaderOrder"
def keyProfileName : Str := "tlsplus.profileName"
def keyServerListenAddr : Str := "tlsplus.serverListenAddr"

def defaultListenAddr : Str := "127.0.0.1:43117"

namespace Preferences

def setBoolean (p : Preferences) (key : Str) (value : Bool) : Preferences :=
  { p with booleans := p.booleans.insert key value }

def setString (p : Preferences) (key value : Str) : Preferences :=
  { p with strings := p.strings.insert key value }

def passThroughOnly (p : Preferences) : Bool :=
  (p.booleans.lookup keyPassThroughOnly).getD false

def preserveHeaderOrder (p : Preferences) : Bool :=
  (p.booleans.lookup keyPreserveHeaderOrder).getD true

def profileName (p : Preferences) : Str :=
  (p.strings.lookup keyProfileName).getD "chrome_149"

def serverListenAddr (p : Preferences) : Str :=
  (p.strings.lookup keyServerListenAddr).getD defaultListenAddr

def setPassThroughOnly (p : Preferences) (value : Bool) : Preferences :=
  p.setBoolean keyPassThroughOnly value

def setPreserveHeaderOrder (p : Preferences) (value : Bool) : Preferences :=
  p.setBoolean keyPreserveHeaderOrder value

def setProfileName (p : Preferences) (value : Str) : Preferences :=
  p.setString keyProfileName value

def setServerListenAddr (p : Preferences) (value : Str) : Preferences :=
  p.setString keyServerListenAddr value

end Preferences

/-! ### The four values -/

structure Settings where
  passThroughOnly : Bool
  preserveHeaderOrder : Bool
  profileName : Str
  serverListenAddr : Str
deriving DecidableEq, Repr

/-- The values that the properties show. -/
def Preferences.settings (p : Preferences) : Settings :=
  ⟨p.passThroughOnly, p.preserveHeaderOrder, p.profileName, p.serverListenAddr⟩

namespace Preferences

variable (p : Preferences)

@[simp] theorem settings_setPassThroughOnly (value : Bool) :
    (p.setPassThroughOnly value).settings = { p.settings with passThroughOnly := value } := by
  have hother : keyPreserveHeaderOrder ≠ keyPassThroughOnly := by decide
  simp [settings, setPassThroughOnly, setBoolean, passThroughOnly, preserveHeaderOrder,
    profileName, serverListenAddr, AList.lookup_insert_ne hother]

@[simp] theorem settings_setPreserveHeaderOrder (value : Bool) :
    (p.setPreserveHeaderOrder value).settings
      = { p.settings with preserveHeaderOrder := value } := by
  have hother : keyPassThroughOnly ≠ keyPreserveHeaderOrder := by decide
  simp [settings, setPreserveHeaderOrder, setBoolean, passThroughOnly, preserveHeaderOrder,
    profileName, serverListenAddr, AList.lookup_insert_ne hother]

@[simp] theorem settings_setProfileName (value : Str) :
    (p.setProfileName value).settings = { p.settings with profileName := value } := by
  have hother : keyServerListenAddr ≠ keyProfileName := by decide
  simp [settings, setProfileName, setString, passThroughOnly, preserveHeaderOrder,
    profileName, serverListenAddr, AList.lookup_insert_ne hother]

@[simp] theorem settings_setServerListenAddr (value : Str) :
    (p.setServerListenAddr value).settings = { p.settings with serverListenAddr := value } := by
  have hother : keyProfileName ≠ keyServerListenAddr := by decide
  simp [settings, setServerListenAddr, setString, passThroughOnly, preserveHeaderOrder,
    profileName, serverListenAddr, AList.lookup_insert_ne hother]

/-- A setting that was never written shows its default. -/
example : empty.settings = ⟨false, true, "chrome_149", "127.0.0.1:43117"⟩ := by decide

end Preferences

end TlsPlus
