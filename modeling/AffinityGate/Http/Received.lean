import AffinityGate.Http.Chunked
import AffinityGate.Http.Head
import AffinityGate.Text.Blank

/-!
# Responses as received

How long the body of a response is follows from the request's method, the status and the headers.
A body that breaks off before its end is lost as a whole.
-/

namespace AffinityGate.Http

/-- How the end of a body is found. -/
inductive Framing
  | empty
  | sized (length : Nat)
  | chunked
  | untilClose
  deriving DecidableEq, Repr

namespace Framing

/-- The longest body that can be announced. -/
def maxLength : Nat := Nat.pow 2 64 - 3

/-- Lengths stay below this bound. -/
def lengthLimit : Nat := Nat.pow 2 64

/-- The entries of a value that is a list with commas. -/
def entries? (value : Bytes) : Option (List (List Char)) :=
  (visibleText? value).map fun s => (pieces ',' s.toList).map trim

/-- The length that all entries of all values agree on. -/
def agreedLength? (values : List Bytes) : Option Nat :=
  match values.mapM entries? with
  | none => none
  | some lists =>
    match lists.flatten.mapM (Net.number? Net.decimal? 10) with
    | some (n :: ns) => if ns.all (· == n) ∧ n < lengthLimit then some n else none
    | _ => none

/-- Whether the last coding applied is the chunked one. -/
def endsChunked (values : List Bytes) : Bool :=
  match values.getLast?.bind entries? with
  | some es => (es.getLast?.getD []).map Char.toLower == "chunked".toList
  | none => false

/-- The framing of a response; `none` if its headers contradict themselves. -/
def ofHead? (method : Method) (h : Head) : Option Framing :=
  let codings := h.headers.values .transferEncoding
  let lengths := h.headers.values .contentLength
  if h.status = 101 ∨ h.status = 204 ∨ h.status = 304 ∨ method = .head
      ∨ (method = .connect ∧ 200 ≤ h.status ∧ h.status < 300) then
    some .empty
  else if codings ≠ [] then
    if h.minor = 0 then none
    else if endsChunked codings then some .chunked
    else some .untilClose
  else if lengths ≠ [] then
    match agreedLength? lengths with
    | some n => if n ≤ maxLength then some (.sized n) else none
    | none => none
  else some .untilClose

/-- The body within the bytes up to the close; `none` if it breaks off. -/
def body? (f : Framing) (bs : Bytes) : Option Bytes :=
  match f with
  | .empty => some []
  | .sized n => if n ≤ bs.length then some (bs.take n) else none
  | .chunked => Chunked.read? bs
  | .untilClose => some bs

end Framing

/-- A response as received: its body is `none` if it broke off. -/
structure Received where
  status : Nat
  headers : Headers
  body : Option Bytes
  deriving DecidableEq

/-- The response within the bytes up to the close; `none` if there is none. -/
def Received.read? (method : Method) (bs : Bytes) : Option Received :=
  match Head.final? bs with
  | none => none
  | some (h, rest) =>
    (Framing.ofHead? method h).map fun f => ⟨h.status, h.headers, f.body? rest⟩

end AffinityGate.Http
