import AffinityGate.Text.Percent

/-!
# Hexadecimal

Lower-case hexadecimal texts of byte strings and of 64-bit words.
-/

namespace AffinityGate.Hex

/-- The lower-case digit of a value below sixteen. -/
def digit (n : Nat) : Char :=
  "0123456789abcdef".toList.getD n '0'

/-- Two digits per byte. -/
def encode (bs : Bytes) : String :=
  String.ofList (bs.flatMap fun b => [digit (b.toNat / 16), digit (b.toNat % 16)])

/-- The bytes of pairs of digits. -/
def decode? : Bytes → Option Bytes
  | [] => some []
  | [_] => none
  | h :: l :: rest =>
    match Percent.escape? h l, decode? rest with
    | some b, some bs => some (b :: bs)
    | _, _ => none

/-- The sixteen digits of a word. -/
def word (w : UInt64) : String :=
  String.ofList ((List.range 16).reverse.map fun i => digit (w.toNat / Nat.pow 16 i % 16))

end AffinityGate.Hex
