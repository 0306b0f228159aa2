/-
Socket addresses as `std::net` prints them.

The server records the address it listens on as text, and that text is what its
clients parse, so printing follows the standard library in full: an IPv6 address
has its longest run of zero groups compressed, if it is longer than one, and one
that maps an IPv4 address shows it in dotted form.
-/
import TlsPlus.Lib.Text

namespace TlsPlus

open Text

inductive IpAddr where
  | v4 (a b c d : UInt8)
  | v6 (segments : Vector UInt16 8) (scopeId : UInt32)
deriving DecidableEq

structure SocketAddr where
  ip : IpAddr
  port : UInt16
deriving DecidableEq

namespace IpAddr

/-- `127.0.0.0/8`, or `::1`. -/
def isLoopback : IpAddr → Bool
  | .v4 a _ _ _ => a = 127
  | .v6 segments _ => segments.toList = [0, 0, 0, 0, 0, 0, 0, 1]

def displayV4 (a b c d : UInt8) : Str :=
  decimal a.toNat ++ "." ++ decimal b.toNat ++ "." ++ decimal c.toNat ++ "." ++ decimal d.toNat

/-- Where the first of the longest runs of zeros starts, and its length. -/
def longestZeros (segments : List UInt16) : Nat × Nat :=
  let step := fun (state : (Nat × Nat) × (Nat × Nat)) (e : UInt16 × Nat) =>
    let (current, longest) := state
    if e.1 = 0 then
      let current := (if current.2 = 0 then e.2 else current.1, current.2 + 1)
      (current, if current.2 > longest.2 then current else longest)
    else ((0, 0), longest)
  (segments.zipIdx.foldl step ((0, 0), (0, 0))).2

def displayGroups (groups : List UInt16) : Str :=
  List.intercalate [':'] (groups.map fun g => Nat.toDigits 16 g.toNat)

def displayV6 (segments : List UInt16) : Str :=
  match segments with
  | [0, 0, 0, 0, 0, 0xFFFF, ab, cd] =>
    "::ffff:" ++ displayV4 (ab >>> 8).toUInt8 ab.toUInt8 (cd >>> 8).toUInt8 cd.toUInt8
  | _ =>
    let (start, length) := longestZeros segments
    if length > 1 then
      displayGroups (segments.take start) ++ "::" ++ displayGroups (segments.drop (start + length))
    else displayGroups segments

end IpAddr

/-- `SocketAddr` as text. -/
def SocketAddr.display (addr : SocketAddr) : Str :=
  match addr.ip with
  | .v4 a b c d => IpAddr.displayV4 a b c d ++ ":" ++ decimal addr.port.toNat
  | .v6 segments scopeId =>
    let scope : Str := if scopeId = 0 then [] else "%" ++ decimal scopeId.toNat
    "[" ++ IpAddr.displayV6 segments.toList ++ scope ++ "]:" ++ decimal addr.port.toNat

end TlsPlus
