import AffinityGate.Text.Utf8

/-!
# Methods and header fields

Methods and header names are tokens; names are kept in lower case, so that two spellings of one
name are equal.  Header values are bytes without controls other than the tab.
-/

namespace AffinityGate.Http

/-- The characters of a token. -/
def isTokenChar (c : Char) : Bool :=
  c.isAlphanum || "!#$%&'*+-.^_`|~".toList.contains c

/-- The characters of a lower-case token. -/
def isLowerTokenChar (c : Char) : Bool :=
  isTokenChar c && !c.isUpper

/-- A request method. -/
structure Method where
  text : String
  token : text ≠ "" ∧ text.toList.all isTokenChar = true
  deriving DecidableEq

/-- The name of a header, in lower case. -/
structure HeaderName where
  text : String
  token : text ≠ "" ∧ text.toList.all isLowerTokenChar = true
  deriving DecidableEq

/-- A method from its bytes. -/
def Method.ofBytes? (bs : Bytes) : Option Method :=
  let s := String.ofList (bs.map fun b => Char.ofNat b.toNat)
  if h : s ≠ "" ∧ s.toList.all isTokenChar = true then some ⟨s, h⟩ else none

/-- The longest header name. -/
def HeaderName.maxLength : Nat := 65535

/-- A header name from its bytes, in any case. -/
def HeaderName.ofBytes? (bs : Bytes) : Option HeaderName :=
  let s := String.ofList (bs.map fun b => (Char.ofNat b.toNat).toLower)
  if h : s ≠ "" ∧ s.toList.all isLowerTokenChar = true then
    if bs.length ≤ maxLength then some ⟨s, h⟩ else none
  else none

/-- Bytes that a header value may hold. -/
def isValueByte (b : UInt8) : Bool :=
  (0x20 ≤ b && b != 0x7F) || b == 0x09

/-- Whether bytes can be a header value. -/
def isHeaderValue (bs : Bytes) : Bool :=
  bs.all isValueByte

/-- The text of a header value, if it is visible ASCII. -/
def visibleText? (bs : Bytes) : Option String :=
  if bs.all fun b => (0x20 ≤ b && b < 0x7F) || b == 0x09 then
    some (String.ofList (bs.map fun b => Char.ofNat b.toNat))
  else none

namespace Method

/-- The `CONNECT` method. -/
def connect : Method := ⟨"CONNECT", by decide⟩

/-- The `GET` method. -/
def get : Method := ⟨"GET", by decide⟩

/-- The `HEAD` method. -/
def head : Method := ⟨"HEAD", by decide⟩

/-- The `POST` method. -/
def post : Method := ⟨"POST", by decide⟩

end Method

namespace HeaderName

/-- The `connection` header. -/
def connection : HeaderName := ⟨"connection", by decide⟩
/-- The `content-length` header. -/
def contentLength : HeaderName := ⟨"content-length", by decide⟩
/-- The `content-type` header. -/
def contentType : HeaderName := ⟨"content-type", by decide⟩
/-- The `host` header. -/
def host : HeaderName := ⟨"host", by decide⟩
/-- The `keep-alive` header. -/
def keepAlive : HeaderName := ⟨"keep-alive", by decide⟩
/-- The `location` header. -/
def location : HeaderName := ⟨"location", by decide⟩
/-- The `proxy-connection` header. -/
def proxyConnection : HeaderName := ⟨"proxy-connection", by decide⟩
/-- The `te` header. -/
def te : HeaderName := ⟨"te", by decide⟩
/-- The `trailer` header. -/
def trailer : HeaderName := ⟨"trailer", by decide⟩
/-- The `transfer-encoding` header. -/
def transferEncoding : HeaderName := ⟨"transfer-encoding", by decide⟩
/-- The `upgrade` header. -/
def upgrade : HeaderName := ⟨"upgrade", by decide⟩
/-- The `user-agent` header. -/
def userAgent : HeaderName := ⟨"user-agent", by decide⟩
/-- The `x-forwarded-for` header. -/
def forwardedFor : HeaderName := ⟨"x-forwarded-for", by decide⟩
/-- The `x-forwarded-host` header. -/
def forwardedHost : HeaderName := ⟨"x-forwarded-host", by decide⟩
/-- The `x-forwarded-proto` header. -/
def forwardedProto : HeaderName := ⟨"x-forwarded-proto", by decide⟩
/-- The `x-request-id` header. -/
def requestId : HeaderName := ⟨"x-request-id", by decide⟩

end HeaderName
end AffinityGate.Http
