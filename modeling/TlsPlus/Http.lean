/-
HTTP messages as the `http` crate has them.

Header names are lower-case tokens and header values are bytes without control
characters; both carry the proof, so no other name or value can be built.  A
header map is a multimap from the one to the other.

A value can be read as text only when it is visible ASCII (`to_str`), and it is
that reading, not the bytes, that all of the proxy's decisions are made on.
-/
import TlsPlus.Lib.Multimap
import TlsPlus.Lib.Utf8

namespace TlsPlus

open Text

/-! ### Header names and values -/

/-- The characters of a header name in its normal form. -/
def isHeaderNameChar (c : Char) : Bool :=
  c.isDigit || c.isLower || ("!#$%&'*+-.^_|~" : Str).contains c || c.toNat = 96

structure HeaderName where
  text : Str
  valid : text ≠ [] ∧ text.length < UInt16.size ∧ text.all isHeaderNameChar = true
deriving DecidableEq

theorem HeaderName.ext {m n : HeaderName} (h : m.text = n.text) : m = n := by
  cases m
  cases n
  simpa using h

namespace HeaderName

def host : HeaderName := ⟨"host", by decide⟩
def connection : HeaderName := ⟨"connection", by decide⟩
def upgrade : HeaderName := ⟨"upgrade", by decide⟩
def contentLength : HeaderName := ⟨"content-length", by decide⟩
def transferEncoding : HeaderName := ⟨"transfer-encoding", by decide⟩
def xTlsplusTarget : HeaderName := ⟨"x-tlsplus-target", by decide⟩
def xTlsplusProfile : HeaderName := ⟨"x-tlsplus-profile", by decide⟩
def xTlsplusTimeout : HeaderName := ⟨"x-tlsplus-timeout", by decide⟩
def xTlsplusHttpVersion : HeaderName := ⟨"x-tlsplus-http-version", by decide⟩

/-- Reads a name in any letter case. -/
def parse (s : Str) : Option HeaderName :=
  let text := toAsciiLowercase s
  if h : text ≠ [] ∧ text.length < UInt16.size ∧ text.all isHeaderNameChar = true then
    some ⟨text, h⟩
  else none

end HeaderName

/-- A byte that may stand in a header value: a tab, or no control character. -/
def isHeaderValueByte (b : UInt8) : Bool := b = 9 || (32 ≤ b && b ≠ 127)

structure HeaderValue where
  bytes : List UInt8
  valid : bytes.all isHeaderValueByte = true
deriving DecidableEq

namespace HeaderValue

def isVisibleAscii (b : UInt8) : Bool := (32 ≤ b && b < 127) || b = 9

/-- The value as text, if it is visible ASCII. -/
def toStr (v : HeaderValue) : Option Str :=
  if v.bytes.all isVisibleAscii then some (v.bytes.map fun b => Char.ofNat b.toNat) else none

/-- The bytes of a text, one for each character. -/
def encode (s : Str) : List UInt8 := s.map fun c => UInt8.ofNat c.toNat

/-- A value written in the program text. -/
def fromStatic (s : Str) (h : (encode s).all isHeaderValueByte = true := by decide) :
    HeaderValue := ⟨encode s, h⟩

def parse (s : Str) : Option HeaderValue :=
  if h : (utf8Encode s).all isHeaderValueByte = true then some ⟨utf8Encode s, h⟩ else none

end HeaderValue

abbrev HeaderMap := Multimap HeaderName HeaderValue

/-! ### Requests and responses -/

inductive Version where
  | http09 | http10 | http11 | http2 | http3
deriving DecidableEq, Repr

/-- The methods with a name of their own, and the extension methods. -/
inductive Method where
  | get | head | post | put | delete | options | connect | patch | trace
  | extension (token : Str)
deriving DecidableEq, Repr

/-- A status code has three digits. -/
structure StatusCode where
  code : Nat
  valid : 100 ≤ code ∧ code < 1000
deriving DecidableEq

namespace StatusCode

def switchingProtocols : StatusCode := ⟨101, by decide⟩
def ok : StatusCode := ⟨200, by decide⟩
def badRequest : StatusCode := ⟨400, by decide⟩
def internalServerError : StatusCode := ⟨500, by decide⟩
def badGateway : StatusCode := ⟨502, by decide⟩
def gatewayTimeout : StatusCode := ⟨504, by decide⟩

def isSuccess (s : StatusCode) : Bool := 200 ≤ s.code && s.code < 300
def isServerError (s : StatusCode) : Bool := 500 ≤ s.code && s.code < 600

theorem isSuccess_iff {s : StatusCode} : s.isSuccess = true ↔ 200 ≤ s.code ∧ s.code < 300 := by
  simp [isSuccess]

end StatusCode

/-- A request as the server hands it over.  `protocol` is the `:protocol` of an Extended
CONNECT, and `onUpgrade` stands for the stream that `hyper::upgrade::on` yields. -/
structure Request where
  method : Method
  version : Version
  protocol : Option Str
  headers : HeaderMap
  body : List UInt8
  onUpgrade : Nat
deriving DecidableEq

/-- A response an upstream sends. -/
structure UpstreamResponse where
  version : Version
  status : StatusCode
  headers : HeaderMap
  body : List UInt8
deriving DecidableEq

inductive ServerBody where
  | text (message : Str)
  | stream (bytes : List UInt8)
  | empty
deriving DecidableEq

/-- A response the proxy answers with. -/
structure Response where
  version : Version
  status : StatusCode
  headers : HeaderMap
  body : ServerBody
deriving DecidableEq

end TlsPlus
