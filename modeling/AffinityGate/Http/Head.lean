import AffinityGate.Http.Headers
import AffinityGate.Net.Address

/-!
# Heads of responses

The head of a response is its status line and its header lines.  Lines end in a line feed that a
carriage return may precede, blank lines before the status line are passed over, and the reason
phrase may be missing.
-/

namespace AffinityGate.Http

/-- The head of a response in version 1.0 or 1.1. -/
structure Head where
  minor : Nat
  status : Nat
  headers : Headers
  deriving DecidableEq

namespace Head

/-- The most header lines a head may have. -/
def maxHeaders : Nat := 100

/-- The next line without its end, and the rest. -/
def cutLine? (bs : Bytes) : Option (Bytes × Bytes) :=
  (cutAt (0x0A : UInt8) bs).map fun r =>
    (if r.1.getLast? = some 0x0D then r.1.dropLast else r.1, r.2)

/-- Blanks around a header value. -/
def isPadding (b : UInt8) : Bool :=
  b == 0x20 || b == 0x09

/-- A value without the blanks around it. -/
def trimValue (bs : Bytes) : Bytes :=
  ((bs.dropWhile isPadding).reverse.dropWhile isPadding).reverse

/-- A header line: a name directly before the colon, and a value. -/
def headerLine? (line : Bytes) : Option (HeaderName × Bytes) :=
  match cutAt (0x3A : UInt8) line with
  | none => none
  | some (name, value) =>
    match HeaderName.ofBytes? name with
    | some n => if isHeaderValue value then some (n, trimValue value) else none
    | none => none

/-- Header lines up to the empty line, at most `allowed` of them. -/
def headerLines? : Nat → Bytes → Option (Headers × Bytes)
  | 0, bs =>
    match cutLine? bs with
    | some ([], rest) => some ([], rest)
    | _ => none
  | allowed + 1, bs =>
    match cutLine? bs with
    | none => none
    | some ([], rest) => some ([], rest)
    | some (line, rest) =>
      match headerLine? line, headerLines? allowed rest with
      | some h, some (hs, rest) => some (h :: hs, rest)
      | _, _ => none

/-- The smallest status. -/
def minStatus : Nat := 100

/-- The minor version and the status of a status line. -/
def statusLine? (line : Bytes) : Option (Nat × Nat) :=
  let digit? (b : UInt8) : Option Nat := Net.decimal? (Char.ofNat b.toNat)
  let read (minor : Nat) (rest : Bytes) : Option (Nat × Nat) :=
    match rest with
    | 0x20 :: a :: b :: c :: reason =>
      match digit? a, digit? b, digit? c with
      | some x, some y, some z =>
        let status := x * 100 + y * 10 + z
        if minStatus ≤ status ∧ (reason = [] ∨ reason.head? = some 0x20)
            ∧ isHeaderValue reason = true then
          some (minor, status)
        else none
      | _, _, _ => none
    | _ => none
  match stripStart? (Utf8.ofText "HTTP/1.0") line, stripStart? (Utf8.ofText "HTTP/1.1") line with
  | some rest, _ => read 0 rest
  | _, some rest => read 1 rest
  | none, none => none

/-- Blank lines passed over. -/
def skipBlankLines : Bytes → Bytes
  | 0x0D :: 0x0A :: rest => skipBlankLines rest
  | 0x0A :: rest => skipBlankLines rest
  | bs => bs

/-- The head at the front, and the rest. -/
def read? (bs : Bytes) : Option (Head × Bytes) :=
  match cutLine? (skipBlankLines bs) with
  | none => none
  | some (line, rest) =>
    match statusLine? line, headerLines? maxHeaders rest with
    | some (minor, status), some (headers, rest) => some (⟨minor, status, headers⟩, rest)
    | _, _ => none

/-- Heads that only announce a later one.  `101` is final: it ends the exchange. -/
def isInterim (h : Head) : Bool :=
  h.status < 200 && h.status != 101

/-- The first head that is not interim.  `fuel` bounds the number of heads read. -/
def readFinal? : Nat → Bytes → Option (Head × Bytes)
  | 0, _ => none
  | fuel + 1, bs =>
    match read? bs with
    | none => none
    | some (h, rest) => if h.isInterim then readFinal? fuel rest else some (h, rest)

/-- The final head of a response, and what follows it. -/
def final? (bs : Bytes) : Option (Head × Bytes) :=
  readFinal? (bs.length + 1) bs

end Head
end AffinityGate.Http
