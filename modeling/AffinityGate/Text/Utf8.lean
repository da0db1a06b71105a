/-!
# UTF-8

Byte strings are lists of bytes.  `encode` writes characters, `scan` reads bytes back: it yields
one entry per well-formed character and one `none` per maximal ill-formed part.  The strict
reader `decode?` refuses every `none`, the lenient reader `lossy` replaces each one by U+FFFD, so
that the two can differ only where the bytes are ill-formed.
-/

namespace AffinityGate

/-- A byte string. -/
abbrev Bytes := List UInt8

namespace Utf8

/-- The bytes of a sequence of characters. -/
def encode (cs : List Char) : Bytes :=
  cs.flatMap String.utf8EncodeChar

/-- What a lead byte announces: how many bytes follow, the range of the first of them, and the
bits the lead byte itself contributes. -/
structure Lead where
  more : Nat
  low : UInt8
  high : UInt8
  bits : Nat
  deriving DecidableEq, Repr

/-- The narrowed ranges after E0, ED, F0 and F4 exclude overlong forms, surrogates and values
above U+10FFFF. -/
def lead? (b : UInt8) : Option Lead :=
  if b < 0x80 then some ⟨0, 0, 0, b.toNat⟩
  else if b < 0xC2 then none
  else if b < 0xE0 then some ⟨1, 0x80, 0xBF, b.toNat - 0xC0⟩
  else if b = 0xE0 then some ⟨2, 0xA0, 0xBF, 0⟩
  else if b = 0xED then some ⟨2, 0x80, 0x9F, 13⟩
  else if b < 0xF0 then some ⟨2, 0x80, 0xBF, b.toNat - 0xE0⟩
  else if b = 0xF0 then some ⟨3, 0x90, 0xBF, 0⟩
  else if b < 0xF4 then some ⟨3, 0x80, 0xBF, b.toNat - 0xF0⟩
  else if b = 0xF4 then some ⟨3, 0x80, 0x8F, 4⟩
  else none

/-- Reads `n` continuation bytes, the first of them within `low` and `high`.  On failure the
offending byte stays in the rest: it may start the next character. -/
def continuation : Nat → Nat → UInt8 → UInt8 → Bytes → Option Nat × Bytes
  | 0, bits, _, _, bs => (some bits, bs)
  | _ + 1, _, _, _, [] => (none, [])
  | n + 1, bits, low, high, b :: bs =>
    if low ≤ b ∧ b ≤ high then
      continuation n (bits * 64 + b.toNat % 64) 0x80 0xBF bs
    else
      (none, b :: bs)

theorem length_continuation_le (n bits : Nat) (low high : UInt8) (bs : Bytes) :
    (continuation n bits low high bs).2.length ≤ bs.length := by
  fun_induction continuation n bits low high bs with
  | case1 => exact Nat.le_refl _
  | case2 => exact Nat.le_refl _
  | case3 n bits low high b bs h ih => exact Nat.le_succ_of_le ih
  | case4 => exact Nat.le_refl _

/-- One entry per character, one `none` per maximal ill-formed part. -/
def scan : Bytes → List (Option Char)
  | [] => []
  | b :: bs =>
    match lead? b with
    | none => none :: scan bs
    | some l =>
      let r := continuation l.more l.bits l.low l.high bs
      r.1.map Char.ofNat :: scan r.2
termination_by bs => bs.length
decreasing_by
  · simp
  · exact Nat.lt_succ_of_le (length_continuation_le ..)

/-- The characters of well-formed bytes. -/
def decode? (bs : Bytes) : Option (List Char) :=
  (scan bs).mapM id

/-- The characters of any bytes, ill-formed parts replaced. -/
def lossy (bs : Bytes) : List Char :=
  (scan bs).map fun c => c.getD '\uFFFD'

/-- The bytes of a text. -/
def ofText (s : String) : Bytes :=
  encode s.toList

/-- The text of well-formed bytes. -/
def text? (bs : Bytes) : Option String :=
  (decode? bs).map String.ofList

end Utf8
end AffinityGate
