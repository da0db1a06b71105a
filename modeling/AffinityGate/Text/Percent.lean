import AffinityGate.Text.Utf8

/-!
# Percent-encoding

`decode` replaces `%` and two hexadecimal digits by one byte and keeps every other byte, malformed
escapes included.  `encode` writes each byte outside the unreserved set as an escape;
`decode_encode` says that this loses nothing.
-/

namespace AffinityGate.Percent

/-- The value of a hexadecimal digit of either case. -/
def nibble? (b : UInt8) : Option Nat :=
  if 0x30 ≤ b ∧ b ≤ 0x39 then some (b.toNat - 0x30)
  else if 0x41 ≤ b ∧ b ≤ 0x46 then some (b.toNat - 0x37)
  else if 0x61 ≤ b ∧ b ≤ 0x66 then some (b.toNat - 0x57)
  else none

/-- The byte of an escape with the two given digits. -/
def escape? (high low : UInt8) : Option UInt8 :=
  match nibble? high, nibble? low with
  | some h, some l => some (UInt8.ofNat (h * 16 + l))
  | _, _ => none

/-- Escapes replaced by their bytes; a `%` that starts no escape stays. -/
def decode : Bytes → Bytes
  | [] => []
  | [a] => [a]
  | [a, b] => [a, b]
  | a :: high :: low :: rest =>
    if a = 0x25 then
      match escape? high low with
      | some v => v :: decode rest
      | none => a :: decode (high :: low :: rest)
    else
      a :: decode (high :: low :: rest)

/-- Letters, digits and `-`, `.`, `_`, `~`. -/
def isUnreserved (b : UInt8) : Bool :=
  (0x30 ≤ b && b ≤ 0x39) || (0x41 ≤ b && b ≤ 0x5A) || (0x61 ≤ b && b ≤ 0x7A)
    || b == 0x2D || b == 0x2E || b == 0x5F || b == 0x7E

/-- The upper-case hexadecimal digit of a value below sixteen. -/
def digit (n : Nat) : UInt8 :=
  UInt8.ofNat (if n < 10 then 0x30 + n else 0x37 + n)

/-- The escape of one byte. -/
def escape (b : UInt8) : Bytes :=
  [0x25, digit (b.toNat / 16), digit (b.toNat % 16)]

/-- Every byte outside the unreserved set as an escape. -/
def encode (bs : Bytes) : Bytes :=
  bs.flatMap fun b => if isUnreserved b then [b] else escape b

theorem nibble?_digit : ∀ n : Fin 16, nibble? (digit n) = some n.val := by decide

theorem escape?_escape (b : UInt8) :
    escape? (digit (b.toNat / 16)) (digit (b.toNat % 16)) = some b := by
  have hb : b.toNat < 256 := b.toNat_lt
  have h1 := nibble?_digit ⟨b.toNat / 16, by omega⟩
  have h2 := nibble?_digit ⟨b.toNat % 16, by omega⟩
  simp only at h1 h2
  have : b.toNat / 16 * 16 + b.toNat % 16 = b.toNat := by omega
  simp [escape?, h1, h2, this]

theorem decode_escape_append (b : UInt8) (rest : Bytes) :
    decode (escape b ++ rest) = b :: decode rest := by
  simp [escape, decode, escape?_escape]

theorem decode_cons_of_ne {b : UInt8} (h : b ≠ 0x25) (rest : Bytes) :
    decode (b :: rest) = b :: decode rest := by
  match rest with
  | [] => rfl
  | [_] => rfl
  | _ :: _ :: _ => simp [decode, h]

theorem decode_encode (bs : Bytes) : decode (encode bs) = bs := by
  induction bs with
  | nil => simp [encode, decode]
  | cons b bs ih =>
    have hcons : encode (b :: bs)
        = (if isUnreserved b then [b] else escape b) ++ encode bs := rfl
    rw [hcons]
    split
    · rename_i h
      have hne : b ≠ 0x25 := by
        intro hb
        subst hb
        exact absurd h (by decide)
      rw [List.singleton_append, decode_cons_of_ne hne, ih]
    · rw [decode_escape_append, ih]

end AffinityGate.Percent
