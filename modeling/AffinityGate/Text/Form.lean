import AffinityGate.Text.Percent
import AffinityGate.Text.Pieces

/-!
# Form-encoded pairs

A query string is a list of pairs joined by `&`; empty pieces are skipped and a piece without `=`
is a key with an empty value.  `+` stands for a space, escapes are decoded, and bytes that are no
UTF-8 are replaced rather than refused.
-/

namespace AffinityGate.Form

/-- One key or value: pluses are spaces, escapes are bytes, bytes are characters. -/
def component (bs : Bytes) : List Char :=
  Utf8.lossy (Percent.decode (bs.map fun b => if b = 0x2B then 0x20 else b))

/-- Cuts a piece at its first `=`. -/
def pair (piece : Bytes) : List Char × List Char :=
  (component (piece.takeWhile (· != 0x3D)), component ((piece.dropWhile (· != 0x3D)).drop 1))

/-- The pairs of a query string, in order. -/
def pairs (query : Bytes) : List (List Char × List Char) :=
  ((pieces (0x26 : UInt8) query).filter (!·.isEmpty)).map pair

/-- The value of the first pair with the given key. -/
def first? (key : List Char) (query : Bytes) : Option (List Char) :=
  ((pairs query).find? (·.1 == key)).map (·.2)

end AffinityGate.Form
