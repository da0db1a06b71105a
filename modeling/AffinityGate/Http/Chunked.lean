import AffinityGate.Net.Address
import AffinityGate.Text.Utf8

/-!
# Chunked bodies

A chunked body is a sequence of chunks, each after a line with its size in hexadecimal, closed by a
chunk of size zero, trailer lines and an empty line.  Reading is one step per byte.
-/

namespace AffinityGate.Http.Chunked

/-- Where in a chunked body the reader is; `n` is the size of the current chunk. -/
inductive State
  | start
  | size (n : Nat)
  | padding (n : Nat)
  | extension (n : Nat)
  | sizeEnd (n : Nat)
  | data (left : Nat)
  | dataReturn
  | dataEnd
  | lineStart
  | trailer
  | trailerEnd
  | lastEnd
  | done
  deriving DecidableEq, Repr

/-- Sizes stay below this bound. -/
def sizeLimit : Nat := Nat.pow 2 64

/-- The value of a hexadecimal digit. -/
def digit? (b : UInt8) : Option Nat :=
  Net.hexadecimal? (Char.ofNat b.toNat)

/-- One more digit of a size. -/
def grow (n : Nat) (d : Nat) : Option State :=
  if n * 16 + d < sizeLimit then some (.size (n * 16 + d)) else none

/-- What may follow the digits of a size: blanks, an extension, the end of the line. -/
def afterSize (n : Nat) (b : UInt8) : Option State :=
  if b = 0x20 ∨ b = 0x09 then some (.padding n)
  else if b = 0x3B then some (.extension n)
  else if b = 0x0D then some (.sizeEnd n)
  else none

/-- Requires a byte. -/
def expect (want b : UInt8) (next : State) : Option State :=
  if b = want then some next else none

/-- The state after a byte; `none` refuses it. -/
def State.step (s : State) (b : UInt8) : Option State :=
  match s with
  | .start => (digit? b).bind (grow 0)
  | .size n =>
    match digit? b with
    | some d => grow n d
    | none => afterSize n b
  | .padding n => afterSize n b
  | .extension n =>
    if b = 0x0D then some (.sizeEnd n) else if b = 0x0A then none else some (.extension n)
  | .sizeEnd n => expect 0x0A b (if n = 0 then .lineStart else .data n)
  | .data left => some (if left ≤ 1 then .dataReturn else .data (left - 1))
  | .dataReturn => expect 0x0D b .dataEnd
  | .dataEnd => expect 0x0A b .start
  | .lineStart => some (if b = 0x0D then .lastEnd else .trailer)
  | .trailer => some (if b = 0x0D then .trailerEnd else .trailer)
  | .trailerEnd => expect 0x0A b .lineStart
  | .lastEnd => expect 0x0A b .done
  | .done => some .done

/-- Whether the byte read in a state is data. -/
def State.isData : State → Bool
  | .data _ => true
  | _ => false

/-- The data from a state on, if the body comes to its end. -/
def readFrom : State → Bytes → Option Bytes
  | s, [] => if s = .done then some [] else none
  | s, b :: bs =>
    match s.step b with
    | none => none
    | some t => (readFrom t bs).map fun r => if s.isData then b :: r else r

/-- The data of a chunked body; bytes after its end are disregarded. -/
def read? (bs : Bytes) : Option Bytes :=
  readFrom .start bs

end AffinityGate.Http.Chunked
