import AffinityGate.Proofs.Text.Utf8

/-!
# Well-formed bytes are written characters

The strict reader accepts the bytes of a sequence of characters and no others
(`decode?_eq_some_iff_encode`): each lead byte, with the continuation bytes that it announces in the
ranges that it allows, is the written form of one character.  On any other bytes the lenient reader
replaces something (`replacement_mem_lossy`).
-/

namespace AffinityGate.Utf8

/-! ## The bytes of one character -/

/-- A lead byte with what it announces, by the number of bytes that follow it. -/
def Announces (b : UInt8) (l : Lead) : Prop :=
  (b = UInt8.ofNat l.bits ∧ l.bits < 0x80 ∧ l.more = 0) ∨
  (b = UInt8.ofNat (l.bits + 0xC0) ∧ 2 ≤ l.bits ∧ l.bits < 32 ∧ l.more = 1 ∧ l.low = 0x80 ∧
    l.high = 0xBF) ∨
  (b = UInt8.ofNat (l.bits + 0xE0) ∧ l.bits < 16 ∧ l.more = 2 ∧
    l.low = (if l.bits = 0 then 0xA0 else 0x80) ∧
    l.high = if l.bits = 13 then 0x9F else 0xBF) ∨
  (b = UInt8.ofNat (l.bits + 0xF0) ∧ l.bits < 5 ∧ l.more = 3 ∧
    l.low = (if l.bits = 0 then 0x90 else 0x80) ∧
    l.high = if l.bits = 4 then 0x8F else 0xBF)

instance (b : UInt8) (l : Lead) : Decidable (Announces b l) :=
  inferInstanceAs (Decidable (_ ∨ _ ∨ _ ∨ _))

theorem announces_of_lead? {b : UInt8} {l : Lead} (h : lead? b = some l) : Announces b l := by
  have hall : ∀ b, ∀ l ∈ lead? b, Announces b l := forall_byte (by decide +kernel)
  exact hall b l h

/-- A byte that is read as a continuation is a marker with six bits. -/
theorem continuation_succ {n bits v : Nat} {low high : UInt8} {bs rest : Bytes}
    (hlow : 0x80 ≤ low.toNat) (hhigh : high.toNat ≤ 0xBF)
    (h : continuation (n + 1) bits low high bs = (some v, rest)) :
    ∃ a tail, bs = UInt8.ofNat (a + 0x80) :: tail ∧ a < 64 ∧ low.toNat ≤ a + 0x80 ∧
      a + 0x80 ≤ high.toNat ∧ continuation n (bits * 64 + a) 0x80 0xBF tail = (some v, rest) := by
  cases bs with
  | nil => cases h
  | cons b tail =>
    rw [continuation] at h
    split at h
    · rename_i hrange
      obtain ⟨h₁, h₂⟩ := hrange
      rw [UInt8.le_iff_toNat_le] at h₁ h₂
      have hb : b.toNat % 64 + 0x80 = b.toNat := by omega
      refine ⟨b.toNat % 64, tail, ?_, by omega, by omega, by omega, h⟩
      rw [hb, UInt8.ofNat_toNat]
    · cases h

theorem toNat_ofNat {n : Nat} (h : n.isValidChar) : (Char.ofNat n).val.toNat = n := by
  rw [Char.ofNat, dif_pos h]
  rfl

theorem encodeChar_two {a x : Nat} (hlow : 2 ≤ a) (ha : a < 32) (hx : x < 64) :
    String.utf8EncodeChar (Char.ofNat (a * 64 + x)) =
      [UInt8.ofNat (a + 0xC0), UInt8.ofNat (x + 0x80)] := by
  rw [String.utf8EncodeChar, toNat_ofNat (.inl (by omega))]
  rw [if_neg (by omega), if_pos (by omega), show (a * 64 + x) / 64 % 32 = a by omega,
    show (a * 64 + x) % 64 = x by omega]

theorem encodeChar_three {a x y : Nat} (ha : a < 16) (hx : x < 64) (hy : y < 64)
    (hlow : a = 0 → 32 ≤ x) (hhigh : a = 13 → x < 32) :
    String.utf8EncodeChar (Char.ofNat ((a * 64 + x) * 64 + y)) =
      [UInt8.ofNat (a + 0xE0), UInt8.ofNat (x + 0x80), UInt8.ofNat (y + 0x80)] := by
  have hvalid : ((a * 64 + x) * 64 + y).isValidChar := by
    unfold Nat.isValidChar
    omega
  rw [String.utf8EncodeChar, toNat_ofNat hvalid]
  rw [if_neg (by omega), if_neg (by omega), if_pos (by omega),
    show ((a * 64 + x) * 64 + y) / 4096 % 16 = a by omega,
    show ((a * 64 + x) * 64 + y) / 64 % 64 = x by omega,
    show ((a * 64 + x) * 64 + y) % 64 = y by omega]

theorem encodeChar_four {a x y z : Nat} (ha : a < 5) (hx : x < 64) (hy : y < 64) (hz : z < 64)
    (hlow : a = 0 → 16 ≤ x) (hhigh : a = 4 → x < 16) :
    String.utf8EncodeChar (Char.ofNat (((a * 64 + x) * 64 + y) * 64 + z)) =
      [UInt8.ofNat (a + 0xF0), UInt8.ofNat (x + 0x80), UInt8.ofNat (y + 0x80),
        UInt8.ofNat (z + 0x80)] := by
  have hvalid : (((a * 64 + x) * 64 + y) * 64 + z).isValidChar := by
    unfold Nat.isValidChar
    omega
  rw [String.utf8EncodeChar, toNat_ofNat hvalid]
  rw [if_neg (by omega), if_neg (by omega), if_neg (by omega),
    show (((a * 64 + x) * 64 + y) * 64 + z) / 262144 % 8 = a by omega,
    show (((a * 64 + x) * 64 + y) * 64 + z) / 4096 % 64 = x by omega,
    show (((a * 64 + x) * 64 + y) * 64 + z) / 64 % 64 = y by omega,
    show (((a * 64 + x) * 64 + y) * 64 + z) % 64 = z by omega]

/-- What a lead byte and the continuation bytes behind it are read as is written as these bytes. -/
theorem encodeChar_of_continuation {b : UInt8} {l : Lead} {bs rest : Bytes} {v : Nat}
    (hlead : lead? b = some l)
    (h : continuation l.more l.bits l.low l.high bs = (some v, rest)) :
    b :: bs = String.utf8EncodeChar (Char.ofNat v) ++ rest := by
  rcases announces_of_lead? hlead with ⟨rfl, ha, hmore⟩ | ⟨rfl, hmin, ha, hmore, hlow, hhigh⟩ |
    ⟨rfl, ha, hmore, hlow, hhigh⟩ | ⟨rfl, ha, hmore, hlow, hhigh⟩
  · rw [hmore] at h
    cases h
    rw [encodeChar_ascii _ ha]
    rfl
  · rw [hmore, hlow, hhigh] at h
    obtain ⟨x, tail, rfl, hx, -, -, h⟩ := continuation_succ (by simp) (by simp) h
    cases h
    rw [encodeChar_two hmin ha hx]
    rfl
  · rw [hmore, hlow, hhigh] at h
    obtain ⟨x, tail, rfl, hx, hx₁, hx₂, h⟩ :=
      continuation_succ (by split <;> decide) (by split <;> decide) h
    obtain ⟨y, tail, rfl, hy, -, -, h⟩ := continuation_succ (by simp) (by simp) h
    have hfirst : l.bits = 0 → 32 ≤ x := fun h0 => by
      simp only [h0, if_true, UInt8.reduceToNat] at hx₁
      omega
    have hlast : l.bits = 13 → x < 32 := fun h13 => by
      simp only [h13, if_true, UInt8.reduceToNat] at hx₂
      omega
    cases h
    rw [encodeChar_three ha hx hy hfirst hlast]
    rfl
  · rw [hmore, hlow, hhigh] at h
    obtain ⟨x, tail, rfl, hx, hx₁, hx₂, h⟩ :=
      continuation_succ (by split <;> decide) (by split <;> decide) h
    obtain ⟨y, tail, rfl, hy, -, -, h⟩ := continuation_succ (by simp) (by simp) h
    obtain ⟨z, tail, rfl, hz, -, -, h⟩ := continuation_succ (by simp) (by simp) h
    have hfirst : l.bits = 0 → 16 ≤ x := fun h0 => by
      simp only [h0, if_true, UInt8.reduceToNat] at hx₁
      omega
    have hlast : l.bits = 4 → x < 16 := fun h4 => by
      simp only [h4, if_true, UInt8.reduceToNat] at hx₂
      omega
    cases h
    rw [encodeChar_four ha hx hy hz hfirst hlast]
    rfl

/-! ## Whole byte strings -/

/-- Bytes whose reading begins with a character begin with its written form. -/
theorem exists_encodeChar_of_scan {bs : Bytes} {c : Char} {more : List (Option Char)}
    (h : scan bs = some c :: more) :
    ∃ rest, bs = String.utf8EncodeChar c ++ rest ∧ scan rest = more := by
  cases bs with
  | nil =>
    rw [scan] at h
    cases h
  | cons b bs =>
    rw [scan] at h
    split at h
    · cases h
    · rename_i l hlead
      obtain ⟨hchar, hmore⟩ := List.cons.inj h
      obtain ⟨v, hv, rfl⟩ := Option.map_eq_some_iff.mp hchar
      exact ⟨_, encodeChar_of_continuation hlead (Prod.ext hv rfl), hmore⟩

theorem encode_of_scan {bs : Bytes} {cs : List Char} (h : scan bs = cs.map some) :
    bs = encode cs := by
  induction cs generalizing bs with
  | nil =>
    cases bs with
    | nil => rfl
    | cons b bs =>
      rw [scan] at h
      split at h <;> cases h
  | cons c cs ih =>
    obtain ⟨rest, rfl, hrest⟩ := exists_encodeChar_of_scan h
    rw [ih hrest]
    rfl

/-- The strict reader accepts exactly what is written. -/
theorem decode?_eq_some_iff_encode {bs : Bytes} {cs : List Char} :
    decode? bs = some cs ↔ bs = encode cs := by
  constructor
  · exact fun h => encode_of_scan (decode?_eq_some_iff.mp h)
  · rintro rfl
    exact decode?_encode cs

/-- The bytes of some text. -/
def WellFormed (bs : Bytes) : Prop :=
  ∃ cs, bs = encode cs

theorem decode?_eq_none_iff {bs : Bytes} : decode? bs = none ↔ ¬WellFormed bs := by
  rw [Option.eq_none_iff_forall_ne_some]
  simp only [ne_eq, decode?_eq_some_iff_encode, WellFormed, not_exists]

theorem encode_injective {cs ds : List Char} (h : encode cs = encode ds) : cs = ds := by
  rw [← lossy_encode cs, h, lossy_encode]

/-- Where the strict reader refuses something, the lenient reader replaces it. -/
theorem replacement_mem_lossy {bs : Bytes} (hbs : ¬WellFormed bs) : '\uFFFD' ∈ lossy bs := by
  have h := decode?_eq_none_iff.mpr hbs
  rw [lossy, List.mem_map]
  refine ⟨none, ?_, rfl⟩
  rw [decode?] at h
  generalize scan bs = read at h
  induction read with
  | nil => cases h
  | cons c? read ih =>
    cases c? with
    | none => exact List.mem_cons_self
    | some c =>
      refine List.mem_cons_of_mem _ (ih ?_)
      rw [List.mapM_cons] at h
      cases hrest : read.mapM id with
      | none => rfl
      | some cs =>
        rw [hrest] at h
        cases h

end AffinityGate.Utf8
