/-
Socket addresses as `std::net` reads them.

The parser takes what it reads off the front of the text and fails without taking
anything; an address is the whole text or none.  It is stricter than it need be for
decimals, which have no leading zeros in an IPv4 address, and it knows every spelling
of an IPv6 address: with one run of zero groups left out, with its last two groups
in dotted form, and with a scope.
-/
import TlsPlus.Net

namespace TlsPlus

open Text

namespace NetParser

/-- `char::to_digit`, for a radix up to 16. -/
def toDigit (radix : Nat) (c : Char) : Option Nat :=
  let value := if c.isDigit then c.toNat - 48 else if c.isAlpha then c.toLower.toNat - 87 else radix
  if value < radix then some value else none

def readGivenChar (target : Char) : Str → Option Str
  | c :: rest => if c = target then some rest else none
  | [] => none

/-- The digits are read as long as there are any; the number has to be below `bound`. -/
def readNumber (radix bound : Nat) (maxDigits : Option Nat) (allowZeroPrefix : Bool) (s : Str) :
    Option (Nat × Str) :=
  let digits := s.takeWhile fun c => (toDigit radix c).isSome
  let value := (digits.filterMap (toDigit radix)).foldl (fun n digit => n * radix + digit) 0
  if digits = [] ∨ maxDigits.any (· < digits.length) ∨
      (!allowZeroPrefix ∧ digits.head? = some '0' ∧ digits.length > 1) ∨ bound ≤ value then none
  else some (value, s.drop digits.length)

/-- From the second element on, the separator comes first. -/
def readSeparator {α : Type} (sep : Char) (index : Nat) (inner : Str → Option (α × Str)) (s : Str) :
    Option (α × Str) :=
  if index > 0 then (readGivenChar sep s).bind inner else inner s

def readOctet (index : Nat) : Str → Option (Nat × Str) :=
  readSeparator '.' index (readNumber 10 256 (some 3) false)

def readIpv4Addr (s : Str) : Option ((UInt8 × UInt8 × UInt8 × UInt8) × Str) := do
  let (a, s) ← readOctet 0 s
  let (b, s) ← readOctet 1 s
  let (c, s) ← readOctet 2 s
  let (d, s) ← readOctet 3 s
  return ((UInt8.ofNat a, UInt8.ofNat b, UInt8.ofNat c, UInt8.ofNat d), s)

/-- A group of two octets. -/
def fromBeBytes (high low : UInt8) : UInt16 := high.toUInt16 <<< 8 ||| low.toUInt16

/-- Groups from the `index`-th on, `limit` at most, and whether the last two were an IPv4
address. -/
def readGroups : (limit index : Nat) → Str → (List UInt16 × Bool) × Str
  | 0, _, s => (([], false), s)
  | left + 1, index, s =>
    -- an embedded IPv4 address needs room for two groups
    match if left > 0 then readSeparator ':' index readIpv4Addr s else none with
    | some ((a, b, c, d), rest) => (([fromBeBytes a b, fromBeBytes c d], true), rest)
    | none =>
      match readSeparator ':' index (readNumber 16 65536 (some 4) true) s with
      | some (group, rest) =>
        let ((groups, ipv4), rest) := readGroups left (index + 1) rest
        ((UInt16.ofNat group :: groups, ipv4), rest)
      | none => (([], false), s)

/-- Eight groups: `tail` at the end, `head` in front, and zeros between. -/
def joinGroups (head tail : List UInt16) : Vector UInt16 8 :=
  Vector.ofFn fun i =>
    if i < 8 - tail.length then head.getD i 0 else tail.getD (i - (8 - tail.length)) 0

def readIpv6Addr (s : Str) : Option (Vector UInt16 8 × Str) := do
  let ((head, headIpv4), s) := readGroups 8 0 s
  if head.length = 8 then
    return (joinGroups head [], s)
  -- an IPv4 address may only end the whole
  if headIpv4 then none
  let s ← readGivenChar ':' s
  let s ← readGivenChar ':' s
  let ((tail, _), s) := readGroups (8 - (head.length + 1)) 0 s
  return (joinGroups head tail, s)

def readPort (s : Str) : Option (Nat × Str) :=
  (readGivenChar ':' s).bind (readNumber 10 65536 none true)

def readScopeId (s : Str) : Option (Nat × Str) :=
  (readGivenChar '%' s).bind (readNumber 10 4294967296 none true)

def readSocketAddrV4 (s : Str) : Option (SocketAddr × Str) := do
  let ((a, b, c, d), s) ← readIpv4Addr s
  let (port, s) ← readPort s
  return (⟨.v4 a b c d, UInt16.ofNat port⟩, s)

def readSocketAddrV6 (s : Str) : Option (SocketAddr × Str) := do
  let s ← readGivenChar '[' s
  let (segments, s) ← readIpv6Addr s
  let (scopeId, s) := (readScopeId s).getD (0, s)
  let s ← readGivenChar ']' s
  let (port, s) ← readPort s
  return (⟨.v6 segments (UInt32.ofNat scopeId), UInt16.ofNat port⟩, s)

end NetParser

open NetParser

/-- `<SocketAddr as FromStr>::from_str` -/
def parseSocketAddr (s : Str) : Except Str SocketAddr :=
  match (readSocketAddrV4 s).or (readSocketAddrV6 s) with
  | some (addr, []) => .ok addr
  | _ => .error "invalid socket address syntax"

example : [parseSocketAddr "127.0.0.1:43117", parseSocketAddr "[::1]:0080",
      parseSocketAddr "[::ffff:10.0.0.1%7]:80"]
    = [.ok ⟨.v4 127 0 0 1, 43117⟩, .ok ⟨.v6 #v[0, 0, 0, 0, 0, 0, 0, 1] 0, 80⟩,
      .ok ⟨.v6 #v[0, 0, 0, 0, 0, 0xFFFF, 0x0A00, 1] 7, 80⟩] := by decide

/-- No leading zeros, no name, nothing after the port, and no port that is too large. -/
example : ∀ s ∈ (["127.0.0.01:80", "localhost:80", "127.0.0.1:80 ", "127.0.0.1:65536", "127.0.0.1",
    "[1:2:3:4:5:6:7:8::]:80", ""] : List Str),
    parseSocketAddr s = .error "invalid socket address syntax" := by decide

end TlsPlus
