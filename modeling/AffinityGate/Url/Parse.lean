import AffinityGate.Url.Host

/-!
# Absolute URLs

Reads an absolute URL: the surrounding controls and spaces and all tabs and line breaks are
disregarded, a backslash counts as a slash after a well-known scheme, and the path of such a URL
is normalised.
-/

namespace AffinityGate

/-- An absolute URL.  The scheme is in lower case; the path of a URL with a well-known scheme
starts with a slash and has no dot segments. -/
structure Url where
  scheme : String
  host : Option Url.Host
  port : Option Nat
  path : List Char
  query : Option (List Char)
  fragment : Option (List Char)
  deriving DecidableEq, Repr

namespace Url

/-- How the scheme governs the rest. -/
inductive Kind
  | file
  | web
  | other
  deriving DecidableEq, Repr

/-- The default port of a scheme. -/
def defaultPort : String → Option Nat
  | "http" | "ws" => some 80
  | "https" | "wss" => some 443
  | "ftp" => some 21
  | _ => none

/-- Schemes with a default port need a host, `file` may have one, others are free. -/
def kind (scheme : String) : Kind :=
  if scheme = "file" then .file else if (defaultPort scheme).isSome then .web else .other

/-- Characters of a scheme after its first. -/
def isSchemeChar (c : Char) : Bool :=
  c.isAlphanum || c == '+' || c == '-' || c == '.'

/-- The scheme in lower case and what follows its colon. -/
def scheme? (cs : List Char) : Option (String × List Char) :=
  match cs with
  | c :: _ =>
    if c.isAlpha then
      match cs.dropWhile isSchemeChar with
      | ':' :: rest => some (String.ofList ((cs.takeWhile isSchemeChar).map Char.toLower), rest)
      | _ => none
    else none
  | [] => none

/-- Slashes, and backslashes where they count as such. -/
def isSlash (k : Kind) (c : Char) : Bool :=
  c == '/' || (c == '\\' && k != .other)

/-- Where an authority ends. -/
def endsAuthority (k : Kind) (c : Char) : Bool :=
  isSlash k c || c == '?' || c == '#'

/-- What precedes the last `@` of an authority, and the rest. -/
def cutUserinfo (k : Kind) (cs : List Char) : Option (List Char) × List Char :=
  let authority := cs.takeWhile (!endsAuthority k ·)
  let rest := cs.dropWhile (!endsAuthority k ·)
  if authority.contains '@' then
    let after := (authority.reverse.takeWhile (· != '@')).reverse
    (some (authority.take (authority.length - after.length - 1)), after ++ rest)
  else (none, cs)

/-- Where the host ends: at a colon outside brackets or at the end of the authority. -/
def takeHost (k : Kind) : Bool → List Char → List Char × List Char
  | _, [] => ([], [])
  | bracket, c :: cs =>
    if (c == ':' && !bracket) || endsAuthority k c then ([], c :: cs)
    else
      let r := takeHost k (if c == '[' then true else if c == ']' then false else bracket) cs
      (c :: r.1, r.2)

/-- The digits of a port and the rest, which must end the authority. -/
def takePort (cs : List Char) : Except Error (Option Nat × List Char) :=
  let digits := cs.takeWhile Char.isDigit
  let rest := cs.dropWhile Char.isDigit
  if (Net.number? Net.decimal? 10 digits).any (65535 < ·) then .error .badPort
  else
    match rest with
    | c :: _ =>
      if endsAuthority .web c then .ok (Net.number? Net.decimal? 10 digits, rest)
      else .error .badPort
    | [] => .ok (Net.number? Net.decimal? 10 digits, [])

/-- An empty host cannot carry a user, a password or a port, and a web URL needs a host. -/
def authority (k : Kind) (cs : List Char) :
    Except Error (Option Host × Option Nat × List Char) := do
  let (user, rest) := cutUserinfo k cs
  if user = some [] ∧ (rest.head?.any (endsAuthority k)) then
    throw .emptyHost
  let (name, rest) := takeHost k false rest
  if name.isEmpty ∧ k = .web then
    throw .emptyHost
  let host ← if k = .web then Host.parse name else Host.parseOpaque name
  if name.isEmpty ∧ rest.head? = some ':' then
    throw .emptyHost
  let (port, rest) ← match rest with
    | ':' :: r => takePort r
    | r => pure (none, r)
  let written := user.getD []
  if name.isEmpty ∧ written ≠ [] ∧ written ≠ [':'] then
    throw .emptyHost
  return (if name.isEmpty then none else some host, port, rest)

/-- A segment that stands for the directory itself. -/
def isDot (segment : List Char) : Bool :=
  [".", "%2e"].contains (String.ofList (segment.map Char.toLower))

/-- A segment that stands for the parent directory. -/
def isDoubleDot (segment : List Char) : Bool :=
  ["..", ".%2e", "%2e.", "%2e%2e"].contains (String.ofList (segment.map Char.toLower))

/-- Characters that a path writes as escapes. -/
def isEscapedInPath (b : UInt8) : Bool :=
  b ≤ 0x1F || 0x7F ≤ b || b == 0x20 || b == 0x22 || b == 0x23 || b == 0x3C || b == 0x3E
    || b == 0x3F || b == 0x60 || b == 0x7B || b == 0x7D || b == 0x5E

/-- A segment as a path writes it. -/
def segmentText (segment : List Char) : List Char :=
  (Utf8.encode segment).flatMap fun b =>
    if isEscapedInPath b then (Percent.escape b).map fun d => Char.ofNat d.toNat
    else [Char.ofNat b.toNat]

/-- Resolves dot segments from the left; a final one leaves an empty segment. -/
def resolve : List (List Char) → List (List Char) → List (List Char)
  | done, [] => done
  | done, s :: rest =>
    if isDoubleDot s then
      resolve (if rest.isEmpty then done.dropLast ++ [[]] else done.dropLast) rest
    else if isDot s then
      resolve (if rest.isEmpty then done ++ [[]] else done) rest
    else
      resolve (done ++ [segmentText s]) rest

/-- The path of a URL with a well-known scheme. -/
def normalPath (k : Kind) (cs : List Char) : List Char :=
  let cs := cs.map fun c => if isSlash k c then '/' else c
  let cs := match cs with
    | '/' :: rest => rest
    | _ => cs
  '/' :: join '/' (resolve [] (pieces '/' cs))

/-- Splits off the query and the fragment. -/
def tail (cs : List Char) : List Char × Option (List Char) × Option (List Char) :=
  let (front, fragment) := match cutAt '#' cs with
    | some (f, g) => (f, some g)
    | none => (cs, none)
  match cutAt '?' front with
  | some (p, q) => (p, some q, fragment)
  | none => (front, none, fragment)

/-- The host of a `file` URL, before its path. -/
def fileHost (cs : List Char) : Except Error (Option Host × List Char) :=
  match cs with
  | a :: b :: rest =>
    if isSlash .file a ∧ isSlash .file b then
      let name := rest.takeWhile (!endsAuthority .file ·)
      let isDrive := match name with
        | [d, m] => d.isAlpha && (m == ':' || m == '|')
        | _ => false
      if name.isEmpty || isDrive then .ok (none, rest)
      else
        match Host.parse name with
        | .ok h => .ok (some h, rest.dropWhile (!endsAuthority .file ·))
        | .error e => .error e
    else .ok (none, cs)
  | _ => .ok (none, cs)

/-- Reads what follows the colon of the scheme. -/
def afterScheme (scheme : String) (cs : List Char) : Except Error Url := do
  match kind scheme with
  | Kind.file =>
    let (host, rest) ← fileHost cs
    let (p, q, f) := tail rest
    return ⟨scheme, host, none, normalPath .file p, q, f⟩
  | Kind.web =>
    let (host, port, rest) ← authority .web (cs.dropWhile (isSlash .web))
    let (p, q, f) := tail rest
    return ⟨scheme, host, if port = defaultPort scheme then none else port, normalPath .web p, q, f⟩
  | Kind.other =>
    match cs with
    | '/' :: '/' :: r =>
      let (host, port, rest) ← authority .other r
      let (p, q, f) := tail rest
      return ⟨scheme, host, port, p, q, f⟩
    | _ =>
      let (p, q, f) := tail cs
      return ⟨scheme, none, none, p, q, f⟩

/-- Surrounding controls and spaces are dropped, as are tabs and line breaks anywhere. -/
def cleaned (cs : List Char) : List Char :=
  let isEdge (c : Char) : Bool := c.toNat ≤ 0x20
  let cut := ((cs.dropWhile isEdge).reverse.dropWhile isEdge).reverse
  cut.filter fun c => !(c == '\t' || c == '\n' || c == '\r')

/-- Reads an absolute URL. -/
def parse (cs : List Char) : Except Error Url :=
  match scheme? (cleaned cs) with
  | none => .error .relative
  | some (scheme, rest) => afterScheme scheme rest

/-- The text of a host. -/
def Host.text : Host → String
  | .ipv4 a => Net.dottedText ((List.range 4).reverse.map fun i => a / Nat.pow 256 i % 256)
  | .ipv6 gs => "[" ++ Net.groupsText gs ++ "]"
  | .domain name => String.ofList name

/-- The scheme, host, port and path written out. -/
def baseText (u : Url) : String :=
  u.scheme ++ "://" ++ ((u.host.map Host.text).getD "")
    ++ ((u.port.map fun p => ":" ++ toString p).getD "") ++ String.ofList u.path

end Url
end AffinityGate
