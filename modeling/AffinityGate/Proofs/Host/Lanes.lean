import AffinityGate.Proofs.Host.Rotation
import Mathlib.Data.List.Forall2
import Mathlib.Data.Nat.ModEq

/-!
# The low bits of the placement hash

Neither exclusive or nor multiplication carries anything from a high bit to a low one, so the lowest
`k` bits of the hash are made of the lowest `k` bits of the bytes (`stable_modEq`).  Since the
multiplier is odd, they are not lost either: one byte with other low bits changes them
(`stable_modEq_iff_byte`).  `low_bits_place` says what this means for placement: in a pool of
`2 ^ k` hosts a process is placed by the lowest `k` bits of the bytes of its id alone.  Ids that
differ in letter case only, for instance, differ in the sixth bit of some bytes, so up to 32 hosts,
if their number is a power of two, they all have the same candidates.
-/

namespace AffinityGate

/-! ## Residues modulo powers of two -/

theorem xor_modEq {a b c d k : Nat} (hab : a ≡ b [MOD 2 ^ k]) (hcd : c ≡ d [MOD 2 ^ k]) :
    a ^^^ c ≡ b ^^^ d [MOD 2 ^ k] := by
  rw [Nat.ModEq, Nat.xor_mod_two_pow, Nat.xor_mod_two_pow, hab, hcd]

/-- Exclusive or with a number is undone by doing it again. -/
theorem xor_modEq_xor_left_iff {a b c k : Nat} :
    a ^^^ b ≡ a ^^^ c [MOD 2 ^ k] ↔ b ≡ c [MOD 2 ^ k] := by
  constructor
  · intro h
    have htwice := xor_modEq (Nat.ModEq.refl a) h
    rwa [← Nat.xor_assoc, ← Nat.xor_assoc, Nat.xor_self, Nat.zero_xor, Nat.zero_xor] at htwice
  · exact xor_modEq (Nat.ModEq.refl a)

theorem xor_modEq_xor_right_iff {a b c k : Nat} :
    a ^^^ c ≡ b ^^^ c [MOD 2 ^ k] ↔ a ≡ b [MOD 2 ^ k] := by
  rw [Nat.xor_comm a c, Nat.xor_comm b c, xor_modEq_xor_left_iff]

/-- A word has no bits beyond the lowest sixty-four. -/
theorem toNat_modEq_min_iff (x y : UInt64) (k : Nat) :
    x.toNat ≡ y.toNat [MOD 2 ^ min k 64] ↔ x.toNat ≡ y.toNat [MOD 2 ^ k] := by
  rcases Nat.le_total k 64 with hk | hk
  · rw [Nat.min_eq_left hk]
  · have hle : 2 ^ 64 ≤ 2 ^ k := Nat.pow_le_pow_right (by decide) hk
    have hx := x.toNat_lt
    have hy := y.toNat_lt
    rw [Nat.min_eq_right hk]
    constructor
    · intro h
      rw [h.eq_of_lt_of_lt hx hy]
    · intro h
      rw [h.eq_of_lt_of_lt (hx.trans_le hle) (hy.trans_le hle)]

namespace Digest

variable {k : Nat}

/-! ## One step -/

/-- Multiplication by the prime, which is odd, keeps low bits apart and nothing else apart. -/
theorem mul_stablePrime_modEq_iff (x y : UInt64) :
    (x * stablePrime).toNat ≡ (y * stablePrime).toNat [MOD 2 ^ k] ↔
      x.toNat ≡ y.toNat [MOD 2 ^ k] := by
  rw [← toNat_modEq_min_iff, ← toNat_modEq_min_iff x y]
  -- Below `2 ^ 64` the words wrap without any effect on the residue.
  have hdvd : 2 ^ min k 64 ∣ 2 ^ 64 := Nat.pow_dvd_pow 2 (Nat.min_le_right k 64)
  have hwrap (z : UInt64) :
      (z * stablePrime).toNat ≡ z.toNat * stablePrime.toNat [MOD 2 ^ min k 64] := by
    rw [UInt64.toNat_mul]
    exact Nat.mod_mod_of_dvd _ hdvd
  have hodd : (2 ^ min k 64).gcd stablePrime.toNat = 1 :=
    Nat.Coprime.pow_left _ (by decide)
  constructor
  · exact fun h => (((hwrap x).symm.trans h).trans (hwrap y)).cancel_right_of_coprime hodd
  · exact fun h => ((hwrap x).trans (h.mul_right _)).trans (hwrap y).symm

/-- Two steps lead to the same low bits exactly if what is multiplied has the same ones. -/
theorem stableStep_modEq_iff (x y : UInt64) (b c : UInt8) :
    (stableStep x b).toNat ≡ (stableStep y c).toNat [MOD 2 ^ k] ↔
      x.toNat ^^^ b.toNat ≡ y.toNat ^^^ c.toNat [MOD 2 ^ k] := by
  rw [stableStep, stableStep, mul_stablePrime_modEq_iff, UInt64.toNat_xor, UInt64.toNat_xor,
    UInt8.toNat_toUInt64, UInt8.toNat_toUInt64]

/-! ## The whole hash -/

/-- Byte strings of one length whose bytes agree, one by one, in their lowest `k` bits. -/
def SameLowBits (k : Nat) : Bytes → Bytes → Prop :=
  List.Forall₂ fun b c => b.toNat ≡ c.toNat [MOD 2 ^ k]

theorem foldl_stableStep_modEq {bs cs : Bytes} (h : SameLowBits k bs cs) {x y : UInt64}
    (hxy : x.toNat ≡ y.toNat [MOD 2 ^ k]) :
    (bs.foldl stableStep x).toNat ≡ (cs.foldl stableStep y).toNat [MOD 2 ^ k] := by
  induction h generalizing x y with
  | nil => exact hxy
  | cons hbc _ ih => exact ih ((stableStep_modEq_iff x y _ _).mpr (xor_modEq hxy hbc))

/-- What has become different in its low bits stays so, whatever bytes follow. -/
theorem foldl_stableStep_modEq_iff (bs : Bytes) (x y : UInt64) :
    (bs.foldl stableStep x).toNat ≡ (bs.foldl stableStep y).toNat [MOD 2 ^ k] ↔
      x.toNat ≡ y.toNat [MOD 2 ^ k] := by
  induction bs generalizing x y with
  | nil => rfl
  | cons b bs ih =>
    rw [List.foldl_cons, List.foldl_cons, ih, stableStep_modEq_iff, xor_modEq_xor_right_iff]

/-- The low bits of the hash are made of the low bits of the bytes. -/
theorem stable_modEq {bs cs : Bytes} (h : SameLowBits k bs cs) :
    (stable bs).toNat ≡ (stable cs).toNat [MOD 2 ^ k] :=
  foldl_stableStep_modEq h (Nat.ModEq.refl _)

/-- One byte with other low bits makes a hash with other low bits. -/
theorem stable_modEq_iff_byte (front back : Bytes) (b c : UInt8) :
    (stable (front ++ b :: back)).toNat ≡ (stable (front ++ c :: back)).toNat [MOD 2 ^ k] ↔
      b.toNat ≡ c.toNat [MOD 2 ^ k] := by
  rw [stable, stable, List.foldl_append, List.foldl_append, List.foldl_cons, List.foldl_cons,
    foldl_stableStep_modEq_iff, stableStep_modEq_iff, xor_modEq_xor_left_iff]

end Digest

/-! ## Placement -/

namespace HostPool

open Digest (stable SameLowBits)

/-- Candidates are the same exactly if the first one is. -/
theorem candidates_eq_iff (pool : HostPool) (p q : ProcessId) :
    pool.candidates p = pool.candidates q ↔
      primaryIndex p.text pool.size = primaryIndex q.text pool.size := by
  rw [candidates_eq_rotate, candidates_eq_rotate]
  constructor
  · intro h
    have hplace (id : ProcessId) :
        (pool.hosts.rotate (primaryIndex id.text pool.size))[0]?.bind (·.position) =
          some (primaryIndex id.text pool.size) := by
      have hlt : primaryIndex id.text pool.size < pool.size := Nat.mod_lt _ pool.size_pos
      have hurl : primaryIndex id.text pool.size < pool.urls.length := hlt
      rw [List.getElem?_rotate (pool.length_hosts.symm ▸ pool.size_pos), Nat.zero_add,
        length_hosts, Nat.mod_eq_of_lt hlt, getElem?_hosts, List.getElem?_eq_getElem hurl]
      rfl
    have hsame := hplace p
    rw [h, hplace q] at hsame
    exact (Option.some.inj hsame).symm
  · exact fun h => congrArg pool.hosts.rotate h

theorem primaryIndex_eq_iff {pool : HostPool} {k : Nat} (hsize : pool.size = 2 ^ k)
    (p q : ProcessId) : primaryIndex p.text pool.size = primaryIndex q.text pool.size ↔
      (stable (Utf8.ofText p.text)).toNat ≡ (stable (Utf8.ofText q.text)).toNat [MOD 2 ^ k] := by
  rw [hsize]
  rfl

/-- **Low bits place a process.**  Two ids of one length in UTF-8 whose bytes agree, one by one,
modulo `2 ^ k` have hashes that agree modulo `2 ^ k`; so in every pool of `2 ^ k` hosts they have
the same first candidate and the same order of candidates.  Nothing less than the low bits counts:
if the ids differ in one byte only, all of this holds exactly if that byte agrees modulo `2 ^ k`. -/
theorem low_bits_place (k : Nat) (p q : ProcessId) :
    let bs := Utf8.ofText p.text
    let cs := Utf8.ofText q.text
    (SameLowBits k bs cs →
      (stable bs).toNat ≡ (stable cs).toNat [MOD 2 ^ k] ∧
      ∀ pool : HostPool, pool.size = 2 ^ k →
        primaryIndex p.text pool.size = primaryIndex q.text pool.size ∧
        pool.candidates p = pool.candidates q) ∧
    ∀ front b c back, bs = front ++ b :: back → cs = front ++ c :: back →
      ((stable bs).toNat ≡ (stable cs).toNat [MOD 2 ^ k] ↔ b.toNat ≡ c.toNat [MOD 2 ^ k]) ∧
      ∀ pool : HostPool, pool.size = 2 ^ k →
        (pool.candidates p = pool.candidates q ↔ b.toNat ≡ c.toNat [MOD 2 ^ k]) := by
  intro bs cs
  refine ⟨fun h => ?_, fun front b c back hbs hcs => ?_⟩
  · have hhash : (stable bs).toNat ≡ (stable cs).toNat [MOD 2 ^ k] := Digest.stable_modEq h
    refine ⟨hhash, fun pool hsize => ?_⟩
    have hindex := (primaryIndex_eq_iff hsize p q).mpr hhash
    exact ⟨hindex, (pool.candidates_eq_iff p q).mpr hindex⟩
  · have hhash : (stable bs).toNat ≡ (stable cs).toNat [MOD 2 ^ k] ↔
        b.toNat ≡ c.toNat [MOD 2 ^ k] := by
      rw [hbs, hcs]
      exact Digest.stable_modEq_iff_byte front back b c
    refine ⟨hhash, fun pool hsize => ?_⟩
    rw [pool.candidates_eq_iff, primaryIndex_eq_iff hsize]
    exact hhash

/-- A pool of four hosts.  An id in capitals and the same in small letters have the same candidates
there, and one letter further on the candidates are others. -/
theorem letter_case_places_alike :
    let pool : HostPool := ⟨[⟨"http://a", false⟩, ⟨"http://b", false⟩, ⟨"http://c", false⟩,
      ⟨"http://d", false⟩], by decide, by decide⟩
    let small : ProcessId := ⟨"pid-a", by rfl, by decide⟩
    let capital : ProcessId := ⟨"PID-A", by rfl, by decide⟩
    let next : ProcessId := ⟨"pid-b", by rfl, by decide⟩
    pool.size = 2 ^ 2 ∧ SameLowBits 2 (Utf8.ofText small.text) (Utf8.ofText capital.text) ∧
    stable (Utf8.ofText small.text) ≠ stable (Utf8.ofText capital.text) ∧
    pool.candidates small = pool.candidates capital ∧
    pool.candidates small ≠ pool.candidates next := by
  intro pool small capital next
  have hsize : pool.size = 2 ^ 2 := rfl
  have hbytes : Utf8.ofText small.text = [0x70, 0x69, 0x64, 0x2D] ++ 0x61 :: [] ∧
      Utf8.ofText capital.text = [0x50, 0x49, 0x44, 0x2D, 0x41] ∧
      Utf8.ofText next.text = [0x70, 0x69, 0x64, 0x2D] ++ 0x62 :: [] := by decide +kernel
  have hlow : SameLowBits 2 (Utf8.ofText small.text) (Utf8.ofText capital.text) := by
    rw [hbytes.1, hbytes.2.1]
    exact .cons (by decide) (.cons (by decide) (.cons (by decide) (.cons (by decide)
      (.cons (by decide) .nil))))
  obtain ⟨halike, -⟩ := low_bits_place 2 small capital
  obtain ⟨-, hapart⟩ := low_bits_place 2 small next
  refine ⟨hsize, hlow, by decide +kernel, ((halike hlow).2 pool hsize).2, fun hsame => ?_⟩
  have hbyte := ((hapart _ 0x61 0x62 [] hbytes.1 hbytes.2.2).2 pool hsize).mp hsame
  revert hbyte
  decide

end HostPool
end AffinityGate
