import AffinityGate.Text.Percent

/-!
# Reading bytes from the left

What `scan` reads of some bytes does not depend on what follows them, as long as that does not
continue a character (`scan_append`), and the same holds for escapes in front of bytes that are no
part of one (`Percent.decode_append`).  An encoded character is read back as itself
(`scan_encodeChar_append`), so that reading undoes writing (`decode?_encode`).  Where the strict
reader refuses nothing, the lenient one replaces nothing (`lossy_of_decode?`).
-/

namespace AffinityGate

/-- What holds of the bytes of the numbers below 256 holds of all bytes. -/
theorem forall_byte {p : UInt8 → Prop} (h : ∀ n < 256, p (UInt8.ofNat n)) (b : UInt8) : p b := by
  have hb := h b.toNat b.toNat_lt
  rwa [UInt8.ofNat_toNat] at hb

namespace Utf8

/-- Bytes that can only stand inside a character. -/
def continues (b : UInt8) : Bool :=
  0x80 ≤ b && b ≤ 0xBF

/-! ## Bytes in front of others -/

theorem lead?_range {b : UInt8} {l : Lead} (h : lead? b = some l) :
    l.more = 0 ∨ 0x80 ≤ l.low ∧ l.high ≤ 0xBF := by
  unfold lead? at h
  repeat' split at h
  all_goals cases h
  all_goals simp

theorem not_between_of_not_continues {b low high : UInt8} (hlow : 0x80 ≤ low) (hhigh : high ≤ 0xBF)
    (h : continues b = false) : ¬(low ≤ b ∧ b ≤ high) := by
  rintro ⟨h₁, h₂⟩
  have := UInt8.le_trans hlow h₁
  have := UInt8.le_trans h₂ hhigh
  simp_all [continues]

theorem continuation_append {y : UInt8} (hy : continues y = false) (ys : Bytes) (n bits : Nat)
    (low high : UInt8) (bs : Bytes) (hrange : n = 0 ∨ 0x80 ≤ low ∧ high ≤ 0xBF) :
    continuation n bits low high (bs ++ y :: ys) =
      ((continuation n bits low high bs).1, (continuation n bits low high bs).2 ++ y :: ys) := by
  fun_induction continuation n bits low high bs with
  | case1 bits low high bs => rfl
  | case2 n bits low high =>
    obtain ⟨hlow, hhigh⟩ := hrange.resolve_left (Nat.succ_ne_zero n)
    rw [List.nil_append, continuation, if_neg (not_between_of_not_continues hlow hhigh hy)]
  | case3 n bits low high b bs h ih =>
    rw [List.cons_append, continuation, if_pos h]
    exact ih (Or.inr ⟨by decide, by decide⟩)
  | case4 n bits low high b bs h =>
    rw [List.cons_append, continuation, if_neg h]

/-- Bytes are read in the same way in front of a byte that continues no character. -/
theorem scan_append (xs : Bytes) {y : UInt8} (hy : continues y = false) (ys : Bytes) :
    scan (xs ++ y :: ys) = scan xs ++ scan (y :: ys) := by
  fun_induction scan xs with
  | case1 => rfl
  | case2 b bs hlead ih =>
    rw [List.cons_append, scan, hlead]
    simp only [ih, List.cons_append]
  | case3 b bs l hlead r ih =>
    rw [List.cons_append, scan, hlead]
    simp only
    rw [continuation_append hy ys _ _ _ _ _ (lead?_range hlead), ih, List.cons_append]

/-! ## Encoded characters -/

/-- A continuation byte in range is read. -/
theorem continuation_cons (n bits : Nat) {low high : UInt8} {a : Nat} (ha : a < 64)
    (hlow : low.toNat ≤ a + 0x80) (hhigh : a + 0x80 ≤ high.toNat) (bs : Bytes) :
    continuation (n + 1) bits low high (UInt8.ofNat (a + 0x80) :: bs) =
      continuation n (bits * 64 + a) 0x80 0xBF bs := by
  have hbyte : (UInt8.ofNat (a + 0x80)).toNat = a + 0x80 := by
    rw [UInt8.toNat_ofNat']
    omega
  rw [continuation, if_pos]
  · rw [hbyte]
    congr 2
    omega
  · rw [UInt8.le_iff_toNat_le, UInt8.le_iff_toNat_le, hbyte]
    exact ⟨hlow, hhigh⟩

theorem lead?_one : ∀ a < 0x80, lead? (UInt8.ofNat a) = some ⟨0, 0, 0, a⟩ := by decide

theorem lead?_two : ∀ a < 32, 2 ≤ a → lead? (UInt8.ofNat (a + 0xC0)) = some ⟨1, 0x80, 0xBF, a⟩ := by
  decide

theorem lead?_three : ∀ a < 16, lead? (UInt8.ofNat (a + 0xE0)) =
    some ⟨2, if a = 0 then 0xA0 else 0x80, if a = 13 then 0x9F else 0xBF, a⟩ := by decide

theorem lead?_four : ∀ a < 5, lead? (UInt8.ofNat (a + 0xF0)) =
    some ⟨3, if a = 0 then 0x90 else 0x80, if a = 4 then 0x8F else 0xBF, a⟩ := by decide

/-- An encoded character is read as itself, whatever follows it. -/
theorem scan_encodeChar_append (c : Char) (rest : Bytes) :
    scan (String.utf8EncodeChar c ++ rest) = some c :: scan rest := by
  have hvalid : c.val.toNat < 0xD800 ∨ 0xDFFF < c.val.toNat ∧ c.val.toNat < 0x110000 := c.valid
  have hchar : Char.ofNat c.val.toNat = c := Char.ofNat_toNat c
  unfold String.utf8EncodeChar
  generalize c.val.toNat = n at hvalid hchar
  simp only
  split
  · rw [List.singleton_append, scan, lead?_one n (by omega)]
    simp [continuation, hchar]
  · split
    · have hn : n / 64 % 32 * 64 + n % 64 = n := by omega
      rw [List.cons_append, scan, lead?_two (n / 64 % 32) (by omega) (by omega)]
      simp only [List.cons_append]
      rw [continuation_cons _ _ (by omega) (by simp) (by simp; omega)]
      simp [continuation, hn, hchar]
    · split
      · have hn : (n / 4096 % 16 * 64 + n / 64 % 64) * 64 + n % 64 = n := by omega
        rw [List.cons_append, scan, lead?_three (n / 4096 % 16) (by omega)]
        simp only [List.cons_append]
        rw [continuation_cons _ _ (by omega), continuation_cons _ _ (by omega) (by simp)
          (by simp; omega)]
        · simp [continuation, hn, hchar]
        · split
          · simp
            omega
          · simp
        · split
          · simp
            omega
          · simp
            omega
      · have hn : ((n / 262144 % 8 * 64 + n / 4096 % 64) * 64 + n / 64 % 64) * 64 + n % 64 = n := by
          omega
        rw [List.cons_append, scan, lead?_four (n / 262144 % 8) (by omega)]
        simp only [List.cons_append]
        rw [continuation_cons _ _ (by omega), continuation_cons _ _ (by omega) (by simp)
          (by simp; omega), continuation_cons _ _ (by omega) (by simp) (by simp; omega)]
        · simp [continuation, hn, hchar]
        · split
          · simp
            omega
          · simp
        · split
          · simp
            omega
          · simp
            omega

/-- An encoded character does not start with a byte that continues another. -/
theorem encodeChar_eq_cons (c : Char) :
    ∃ y ys, String.utf8EncodeChar c = y :: ys ∧ continues y = false := by
  have hone : ∀ n ≤ 0x7F, continues (UInt8.ofNat n) = false := by
    decide +kernel
  have hlead : ∀ n < 256, 0xC0 ≤ n → continues (UInt8.ofNat n) = false := by
    decide +kernel
  unfold String.utf8EncodeChar
  simp only
  split
  · rename_i h
    exact ⟨_, _, rfl, hone _ h⟩
  · split
    · exact ⟨_, _, rfl, hlead _ (by omega) (by omega)⟩
    · split
      · exact ⟨_, _, rfl, hlead _ (by omega) (by omega)⟩
      · exact ⟨_, _, rfl, hlead _ (by omega) (by omega)⟩

/-- The bytes of a character beyond ASCII are beyond ASCII. -/
theorem le_of_mem_encodeChar {c : Char} (hc : 0x80 ≤ c.toNat) {b : UInt8}
    (hb : b ∈ String.utf8EncodeChar c) : 0x80 ≤ b := by
  have hhigh : ∀ n < 256, 0x80 ≤ n → (0x80 : UInt8) ≤ UInt8.ofNat n := by decide +kernel
  have hwide : ¬c.val.toNat ≤ 0x7F := Nat.not_le.mpr hc
  unfold String.utf8EncodeChar at hb
  simp only [if_neg hwide] at hb
  repeat' split at hb
  all_goals
    simp only [List.mem_cons, List.not_mem_nil, or_false] at hb
    rcases hb with rfl | hb
    · exact hhigh _ (by omega) (by omega)
  · rw [hb]
    exact hhigh _ (by omega) (by omega)
  · rcases hb with rfl | rfl <;> exact hhigh _ (by omega) (by omega)
  · rcases hb with rfl | rfl | rfl <;> exact hhigh _ (by omega) (by omega)

/-- An ASCII byte of a text is one of its characters. -/
theorem mem_of_mem_encode {cs : List Char} {c : Char} (hc : c.toNat < 0x80)
    (h : UInt8.ofNat c.toNat ∈ encode cs) : c ∈ cs := by
  obtain ⟨d, hd, hmem⟩ := List.mem_flatMap.mp h
  have hbyte : ∀ {n}, n < 0x80 → (UInt8.ofNat n).toNat = n := fun hn =>
    UInt8.toNat_ofNat_of_lt' (Nat.lt_trans hn (by decide))
  by_cases hwide : 0x80 ≤ d.toNat
  · have hle := UInt8.le_iff_toNat_le.mp (le_of_mem_encodeChar hwide hmem)
    rw [hbyte hc] at hle
    exact absurd hc (Nat.not_lt.mpr hle)
  · have hd' : d.toNat < 0x80 := Nat.not_le.mp hwide
    have hone : d.val.toNat ≤ 0x7F := Nat.le_of_lt_succ hd'
    simp only [String.utf8EncodeChar, if_pos hone, List.mem_singleton] at hmem
    have hnat : c.toNat = d.toNat := by
      rw [← hbyte hc, hmem]
      exact hbyte hd'
    have hchar : c = d := by
      rw [← Char.ofNat_toNat c, hnat, Char.ofNat_toNat]
    exact hchar ▸ hd

theorem encode_ne_nil {cs : List Char} (h : cs ≠ []) : encode cs ≠ [] := by
  cases cs with
  | nil => exact absurd rfl h
  | cons c cs =>
    obtain ⟨y, ys, hc, -⟩ := encodeChar_eq_cons c
    simp [encode, hc]

theorem ofText_append (s t : String) : ofText (s ++ t) = ofText s ++ ofText t := by
  rw [ofText, String.toList_append]
  exact List.flatMap_append

theorem encodeChar_ascii : ∀ n < 0x80, String.utf8EncodeChar (Char.ofNat n) = [UInt8.ofNat n] := by
  decide

/-- Characters with the numbers of ASCII bytes are written as these bytes. -/
theorem encode_ascii {bs : Bytes} (h : ∀ b ∈ bs, b < 0x80) :
    encode (bs.map fun b => Char.ofNat b.toNat) = bs := by
  induction bs with
  | nil => rfl
  | cons b bs ih =>
    rw [List.forall_mem_cons] at h
    have hb : b.toNat < 0x80 := UInt8.lt_iff_toNat_lt.mp h.1
    have hbs := ih h.2
    rw [encode] at hbs
    rw [encode, List.map_cons, List.flatMap_cons, encodeChar_ascii _ hb, UInt8.ofNat_toNat, hbs]
    rfl

theorem scan_encode (cs : List Char) : scan (encode cs) = cs.map some := by
  induction cs with
  | nil => rw [encode, List.flatMap_nil, scan, List.map_nil]
  | cons c cs ih =>
    have hcons : encode (c :: cs) = String.utf8EncodeChar c ++ encode cs := List.flatMap_cons
    rw [hcons, scan_encodeChar_append, ih, List.map_cons]

/-- Reading undoes writing, also when nothing is refused. -/
theorem lossy_encode (cs : List Char) : lossy (encode cs) = cs := by
  rw [lossy, scan_encode, List.map_map]
  exact List.map_id cs

/-- Reading undoes writing. -/
theorem decode?_encode (cs : List Char) : decode? (encode cs) = some cs := by
  rw [decode?, scan_encode]
  induction cs with
  | nil => rfl
  | cons c cs ih =>
    rw [List.map_cons, List.mapM_cons, ih]
    rfl

/-- What is written in front of other bytes is read in front of what they are read as. -/
theorem decode?_encode_append (cs : List Char) (rest : Bytes) :
    decode? (encode cs ++ rest) = (decode? rest).map (cs ++ ·) := by
  induction cs with
  | nil =>
    rw [encode, List.flatMap_nil, List.nil_append]
    exact (Option.map_id_apply).symm
  | cons c cs ih =>
    have hcons : encode (c :: cs) ++ rest = String.utf8EncodeChar c ++ (encode cs ++ rest) := by
      rw [encode, List.flatMap_cons, List.append_assoc]
      rfl
    rw [decode?] at ih
    rw [hcons, decode?, scan_encodeChar_append, List.mapM_cons, ih]
    cases decode? rest <;> rfl

/-! ## Strict reading -/

theorem decode?_eq_some_iff {bs : Bytes} {cs : List Char} :
    decode? bs = some cs ↔ scan bs = cs.map some := by
  rw [decode?]
  generalize scan bs = read
  induction read generalizing cs with
  | nil => cases cs <;> simp
  | cons c? read ih =>
    cases c? with
    | none => cases cs <;> simp
    | some c =>
      rw [List.mapM_cons]
      cases cs with
      | nil => cases read.mapM id <;> simp
      | cons d cs =>
        have := @ih cs
        cases h : read.mapM id <;> simp_all

/-- Where nothing is refused, nothing is replaced. -/
theorem lossy_of_decode? {bs : Bytes} {cs : List Char} (h : decode? bs = some cs) :
    lossy bs = cs := by
  rw [lossy, decode?_eq_some_iff.mp h, List.map_map]
  exact List.map_id cs

/-- Bytes are well formed in front of a byte that continues no character if both parts are. -/
theorem decode?_append_isSome_iff (xs : Bytes) {y : UInt8} (hy : continues y = false)
    (ys : Bytes) :
    (decode? (xs ++ y :: ys)).isSome = true ↔
      (decode? xs).isSome = true ∧ (decode? (y :: ys)).isSome = true := by
  rw [decode?, scan_append xs hy, List.mapM_append]
  unfold decode?
  cases (scan xs).mapM id with
  | none => simp
  | some cs => cases (scan (y :: ys)).mapM id <;> simp

/-- An ASCII byte is well formed in front of any bytes that are. -/
theorem decode?_cons_isSome_iff {b : UInt8} (hb : b < 0x80) (bs : Bytes) :
    (decode? (b :: bs)).isSome = true ↔ (decode? bs).isSome = true := by
  have hlead : lead? b = some ⟨0, 0, 0, b.toNat⟩ := by rw [lead?, if_pos hb]
  rw [decode?, scan, hlead]
  simp only [continuation, Option.map_some, List.mapM_cons, id]
  unfold decode?
  cases (scan bs).mapM id <;> simp

theorem decode?_isSome_of_ascii {bs : Bytes} (h : ∀ b ∈ bs, b < 0x80) :
    (decode? bs).isSome = true := by
  induction bs with
  | nil => simp [decode?, scan]
  | cons b bs ih =>
    refine (decode?_cons_isSome_iff (h b List.mem_cons_self) bs).mpr (ih fun c hc => ?_)
    exact h c (List.mem_cons_of_mem b hc)

end Utf8

/-! ## Escapes -/

namespace Percent

/-- Bytes that are no part of an escape. -/
def isPlain (b : UInt8) : Bool :=
  b != 0x25 && (nibble? b).isNone

/-- The bytes of a character beyond ASCII are no part of an escape. -/
theorem isPlain_of_mem_encodeChar {c : Char} (hc : 0x80 ≤ c.toNat) {b : UInt8}
    (hb : b ∈ String.utf8EncodeChar c) : isPlain b := by
  have hplain : ∀ b : UInt8, 0x80 ≤ b → isPlain b := forall_byte (by decide +kernel)
  exact hplain b (Utf8.le_of_mem_encodeChar hc hb)

theorem escape?_eq_none {high low : UInt8} (h : nibble? high = none ∨ nibble? low = none) :
    escape? high low = none := by
  unfold escape?
  rcases h with h | h
  · rw [h]
  · rw [h]
    cases nibble? high <;> rfl

theorem decode_cons_of_no_escape {high low : UInt8} (h : escape? high low = none) (a : UInt8)
    (rest : Bytes) : decode (a :: high :: low :: rest) = a :: decode (high :: low :: rest) := by
  rw [decode, h]
  split <;> rfl

/-- Without a percent sign there is no escape. -/
theorem decode_of_ne {ys : Bytes} (h : ∀ b ∈ ys, b ≠ 0x25) : decode ys = ys := by
  induction ys with
  | nil => rfl
  | cons b ys ih =>
    rw [decode_cons_of_ne (h b List.mem_cons_self), ih fun c hc => h c (List.mem_cons_of_mem b hc)]

theorem decode_of_plain {ys : Bytes} (h : ∀ b ∈ ys, isPlain b) : decode ys = ys := by
  refine decode_of_ne fun b hb => ?_
  have := h b hb
  simp_all [isPlain]

/-- A byte in front of bytes that are no part of an escape stays. -/
theorem decode_cons_of_plain (a : UInt8) {ys : Bytes} (h : ∀ b ∈ ys, isPlain b) :
    decode (a :: ys) = a :: ys := by
  match ys with
  | [] => rfl
  | [_] => rfl
  | high :: low :: rest =>
    have hhigh : nibble? high = none := by
      have := h high (by simp)
      simp_all [isPlain]
    rw [decode_cons_of_no_escape (escape?_eq_none (Or.inl hhigh)), decode_of_plain h]

/-- Escapes are read in the same way in front of bytes that are no part of one. -/
theorem decode_append (xs : Bytes) {ys : Bytes} (h : ∀ b ∈ ys, isPlain b) :
    decode (xs ++ ys) = decode xs ++ ys := by
  fun_induction decode xs with
  | case1 => exact decode_of_plain h
  | case2 a => exact decode_cons_of_plain a h
  | case3 a b =>
    cases ys with
    | nil => rfl
    | cons c rest =>
      have hlow : nibble? c = none := by
        have := h c (by simp)
        simp_all [isPlain]
      rw [List.cons_append, List.cons_append, List.nil_append,
        decode_cons_of_no_escape (escape?_eq_none (Or.inr hlow)), decode_cons_of_plain b h]
  | case4 high low rest v hv ih =>
    rw [List.cons_append, List.cons_append, List.cons_append, decode, if_pos rfl, hv]
    simp only [ih, List.cons_append]
  | case5 high low rest hv ih =>
    rw [List.cons_append, List.cons_append, List.cons_append, decode, if_pos rfl, hv]
    simp only [List.cons_append] at ih
    simp only [ih, List.cons_append]
  | case6 a high low rest ha ih =>
    rw [List.cons_append, List.cons_append, List.cons_append, decode, if_neg ha]
    simp only [List.cons_append] at ih
    rw [ih, List.cons_append]

end Percent
end AffinityGate
