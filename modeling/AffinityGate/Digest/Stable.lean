import AffinityGate.Text.Utf8

/-!
# The placement hash

The 64-bit FNV-1a hash: each byte is combined by exclusive or, then the state is multiplied modulo
2^64.  Every gateway computes the same value, whatever its platform, so placement needs no shared
state.
-/

namespace AffinityGate.Digest

/-- The state before the first byte. -/
def stableBasis : UInt64 := 0xcbf29ce484222325

/-- The multiplier of each step. -/
def stablePrime : UInt64 := 0x100000001b3

/-- One byte is taken in. -/
def stableStep (hash : UInt64) (b : UInt8) : UInt64 :=
  (hash ^^^ b.toUInt64) * stablePrime

/-- The hash of a byte string. -/
def stable (bs : Bytes) : UInt64 :=
  bs.foldl stableStep stableBasis

example : stable [] = 0xcbf29ce484222325 := by decide
example : stable [0x61] = 0xaf63dc4c8601ec8c := by decide

end AffinityGate.Digest
