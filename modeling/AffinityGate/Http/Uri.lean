import AffinityGate.Net.Address
import AffinityGate.Text.Utf8

/-!
# Request targets

A target is an origin form (`/path?query`), an authority, `*`, or an absolute form.  Bytes are
checked, not rewritten: a target keeps its path and query as written, less the fragment.
-/

namespace AffinityGate.Http

/-- Why bytes are no target. -/
inductive UriError
  | badCharacter
  | badAuthority
  | badFormat
  | tooLong
  | empty
  | schemeTooLong
  deriving DecidableEq, Repr

/-- The wording of an error. -/
def UriError.message : UriError → String
  | .badCharacter => "invalid uri character"
  | .badAuthority => "invalid authority"
  | .badFormat => "invalid format"
  | .tooLong => "uri too long"
  | .empty => "empty string"
  | .schemeTooLong => "scheme too long"

/-- A request target.  `target` is the path with its query; it may be empty after an authority. -/
structure Uri where
  scheme : Option Bytes
  authority : Bytes
  target : Bytes
  deriving DecidableEq, Repr

namespace Uri

/-- The longest target. -/
def maxLength : Nat := 65534

/-- The longest scheme. -/
def maxScheme : Nat := 64

/-- Bytes that may stand in an authority, delimiters of a target included. -/
def isAuthorityByte (b : UInt8) : Bool :=
  b == 0x21 || b == 0x23 || b == 0x24 || (0x26 ≤ b && b ≤ 0x3B) || b == 0x3D
    || (0x3F ≤ b && b ≤ 0x5B) || b == 0x5D || b == 0x5F || (0x61 ≤ b && b ≤ 0x7A) || b == 0x7E

/-- Where an authority ends: at a slash, a question mark or a number sign. -/
def isDelimiter (b : UInt8) : Bool :=
  b == 0x2F || b == 0x3F || b == 0x23

/-- What has been seen of an authority. -/
structure Seen where
  colons : Nat
  opened : Bool
  closed : Bool
  percent : Bool
  atSign : Bool
  deriving DecidableEq, Repr

/-- One byte of an authority.  Colons and escapes are forgotten after an `@` and after a closing
bracket, where they belonged to the user or to an IPv6 address. -/
def Seen.step (s : Seen) (b : UInt8) : Except UriError Seen :=
  if b = 0x3A then
    if 8 ≤ s.colons then .error .badAuthority
    else .ok { s with colons := s.colons + 1, atSign := false }
  else if b = 0x5B then
    if s.percent || s.opened then .error .badAuthority
    else .ok { s with opened := true, atSign := false }
  else if b = 0x5D then
    if !s.opened || s.closed then .error .badAuthority
    else .ok { s with closed := true, colons := 0, percent := false, atSign := false }
  else if b = 0x40 then
    .ok { s with colons := 0, percent := false, atSign := true }
  else if b = 0x25 then
    .ok { s with percent := true, atSign := false }
  else if isAuthorityByte b then
    .ok { s with atSign := false }
  else
    .error .badCharacter

/-- Brackets are closed, at most one colon is left for the port, something follows the `@`. -/
def Seen.isComplete (s : Seen) : Bool :=
  s.opened == s.closed && s.colons ≤ 1 && !s.atSign && !s.percent

/-- Splits an authority off the front. -/
def cutAuthority (bs : Bytes) : Except UriError (Bytes × Bytes) :=
  let front := bs.takeWhile (!isDelimiter ·)
  match front.foldlM Seen.step ⟨0, false, false, false, false⟩ with
  | .error e => .error e
  | .ok s =>
    if s.isComplete then .ok (front, bs.dropWhile (!isDelimiter ·)) else .error .badAuthority

/-- Bytes that may stand in a path; bytes from 0x80 on are subject to UTF-8. -/
def isPathByte (b : UInt8) : Bool :=
  b == 0x21 || b == 0x22 || (0x24 ≤ b && b ≤ 0x3B) || b == 0x3D || (0x40 ≤ b && b ≤ 0x5F)
    || (0x61 ≤ b && b != 0x7F)

/-- Bytes that may stand in a query; bytes from 0x80 on are subject to UTF-8. -/
def isQueryByte (b : UInt8) : Bool :=
  b == 0x21 || (0x24 ≤ b && b ≤ 0x3B) || b == 0x3D
    || (0x3F ≤ b && b != 0x7F)

/-- The path of a target. -/
def pathPart (target : Bytes) : Bytes :=
  target.takeWhile (· != 0x3F)

/-- The query of a target, its question mark included. -/
def queryPart (target : Bytes) : Bytes :=
  target.dropWhile (· != 0x3F)

/-- A path and query, less the fragment. -/
def checkTarget (bs : Bytes) : Except UriError Bytes :=
  let kept := bs.takeWhile (· != 0x23)
  if (pathPart kept).all isPathByte && ((queryPart kept).drop 1).all isQueryByte
      && (Utf8.decode? kept).isSome then
    .ok kept
  else .error .badCharacter

/-- Lower case for ASCII letters. -/
def lower (b : UInt8) : UInt8 :=
  if 0x41 ≤ b ∧ b ≤ 0x5A then b + 0x20 else b

/-- Bytes of a scheme. -/
def isSchemeByte (b : UInt8) : Bool :=
  (0x30 ≤ b && b ≤ 0x39) || (0x41 ≤ b && b ≤ 0x5A) || (0x61 ≤ b && b ≤ 0x7A)
    || b == 0x2B || b == 0x2D || b == 0x2E

/-- The scheme before `://`, if there is one, and what follows.  `http` and `https` are recognised
in any case and written in lower case. -/
def cutScheme (bs : Bytes) : Except UriError (Option Bytes × Bytes) :=
  let front := bs.takeWhile isSchemeByte
  match bs.drop front.length with
  | 0x3A :: 0x2F :: 0x2F :: rest =>
    let folded := front.map lower
    if folded = Utf8.ofText "http" ∨ folded = Utf8.ofText "https" then .ok (some folded, rest)
    else if maxScheme < front.length then .error .schemeTooLong
    else .ok (some front, rest)
  | _ => .ok (none, bs)

/-- A target of at least two bytes that does not start with a slash. -/
def parseFull (bs : Bytes) : Except UriError Uri := do
  let (scheme, rest) ← cutScheme bs
  let (authority, target) ← cutAuthority rest
  match scheme with
  | none => if target.isEmpty then return ⟨none, authority, []⟩ else throw .badFormat
  | some s =>
    if authority.isEmpty then throw .badFormat
    return ⟨some s, authority, ← checkTarget target⟩

/-- Reads a target. -/
def parse (bs : Bytes) : Except UriError Uri :=
  if maxLength < bs.length then .error .tooLong
  else
    match bs with
    | [] => .error .empty
    | [0x2F] => .ok ⟨none, [], [0x2F]⟩
    | [0x2A] => .ok ⟨none, [], [0x2A]⟩
    | [b] =>
      match cutAuthority [b] with
      | .error e => .error e
      | .ok (authority, target) =>
        if target.isEmpty then .ok ⟨none, authority, []⟩ else .error .badCharacter
    | 0x2F :: _ => (checkTarget bs).map fun t => ⟨none, [], t⟩
    | _ => parseFull bs

/-- The path; an absolute form without one has the path `/`. -/
def path (u : Uri) : Bytes :=
  if u.target.isEmpty ∧ u.scheme.isNone then []
  else
    let p := pathPart u.target
    if p.isEmpty then [0x2F] else p

/-- The query, without its question mark. -/
def query? (u : Uri) : Option Bytes :=
  match queryPart u.target with
  | [] => none
  | _ :: q => some q

/-- Path and query as written; an authority alone has none. -/
def pathAndQuery? (u : Uri) : Option Bytes :=
  if u.scheme.isSome ∨ u.authority.isEmpty then
    some (if u.target.isEmpty then [0x2F] else u.target)
  else none

/-- The target written out. -/
def text (u : Uri) : Bytes :=
  (match u.scheme with
    | some s => s ++ Utf8.ofText "://"
    | none => [])
    ++ u.authority ++ u.path
    ++ (match u.query? with
      | some q => 0x3F :: q
      | none => [])

/-- The host and port of an authority: what follows its last `@`. -/
def hostAndPort (u : Uri) : Bytes :=
  (u.authority.reverse.takeWhile (· != 0x40)).reverse

/-- The host: an address in brackets, or all up to the first colon. -/
def host (u : Uri) : Bytes :=
  match u.hostAndPort with
  | 0x5B :: rest => 0x5B :: rest.takeWhile (· != 0x5D) ++ [0x5D]
  | bs => bs.takeWhile (· != 0x3A)

/-- The largest port. -/
def maxPort : Nat := 65535

/-- The port, if a number that can be one follows the last colon. -/
def port? (u : Uri) : Option Nat :=
  if u.authority.contains 0x3A then
    let written := (u.authority.reverse.takeWhile (· != 0x3A)).reverse
    let digits := match written with
      | 0x2B :: rest => rest
      | _ => written
    (Net.number? Net.decimal? 10 (digits.map fun b => Char.ofNat b.toNat)).filter (· ≤ maxPort)
  else none

end Uri
end AffinityGate.Http
