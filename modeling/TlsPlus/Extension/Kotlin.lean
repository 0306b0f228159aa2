/-
What the extension uses of Kotlin's standard library.

Where a function rests on the runtime's Unicode tables beyond ASCII, the tables are
the parameter `Kotlin`.
-/
import TlsPlus.Lib.Text

namespace TlsPlus

open Text

/-- `String.lowercase` and `Character.digit` in base ten. -/
structure Kotlin where
  lowercase : Str → Str
  digit : Char → Option Nat

/-- `toIntOrNull` -/
def toIntOrNull (k : Kotlin) (s : Str) : Option Int :=
  let sign : Option (Int × Str) :=
    match s with
    | [] => none
    | c :: rest =>
      if c.toNat < 48 then
        if rest = [] then none
        else if c = '-' then some (-1, rest)
        else if c = '+' then some (1, rest)
        else none
      else some (1, c :: rest)
  match sign with
  | none => none
  | some (sign, digits) =>
    match digits.mapM k.digit with
    | none => none
    | some ds =>
      let n := sign * ds.foldl (fun (n d : Nat) => 10 * n + d) 0
      if -2147483648 ≤ n ∧ n ≤ 2147483647 then some n else none

/-! ### White space -/

/-- Kotlin's `Char.isWhitespace`, which is not quite the Unicode property. -/
def kotlinIsWhitespace (c : Char) : Bool :=
  let n := c.toNat
  (9 ≤ n && n ≤ 13) || (0x1C ≤ n && n ≤ 0x20) || n == 0xA0 || n == 0x1680 ||
    (0x2000 ≤ n && n ≤ 0x200A) || n == 0x2028 || n == 0x2029 || n == 0x202F ||
    n == 0x205F || n == 0x3000

/-- `isNullOrBlank` -/
def isNullOrBlank (s : Option Str) : Bool :=
  match s with
  | none => true
  | some s => s.all kotlinIsWhitespace

/-! ### Exceptions -/

/-- A `Throwable`, whose message may be null. -/
structure Throwable where
  message : Option Str
deriving DecidableEq, Repr

/-- The message as a template prints it. -/
def Throwable.text (e : Throwable) : Str := e.message.getD "null"

end TlsPlus
