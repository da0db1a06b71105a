import AffinityGate.Process.DataItem

/-!
# Data items are read as they are written

`DataItem.Fits` says when the fields of an item are long enough and no longer than its signature
type allows.  `read?_exactly_headers` says that reading accepts the byte strings that begin with the
written form of such an item, and no others, and that it looks at nothing behind that form.
-/

namespace AffinityGate

namespace DataItem

/-- An item that can be written: its signature type is known, the lengths of signature and public
key are those of the type, and a target has its length. -/
structure Fits (d : DataItem) : Prop where
  keys : keyLengths? d.signatureType = some (d.signature.length, d.owner.length)
  target : ∀ t, d.target = some t → t.length = targetLength

/-! ## Pieces of known length -/

theorem split?_append (front back : Bytes) :
    split? front.length (front ++ back) = some (front, back) := by
  simp [split?]

theorem split?_eq_some_iff {n : Nat} {bs front back : Bytes} :
    split? n bs = some (front, back) ↔ front.length = n ∧ bs = front ++ back := by
  constructor
  · intro h
    unfold split? at h
    split at h
    · rename_i hn
      cases h
      exact ⟨List.length_take_of_le hn, (List.take_append_drop n bs).symm⟩
    · cases h
  · rintro ⟨rfl, rfl⟩
    exact split?_append front back

/-! ## The signature type -/

/-- The known signature types fit into one byte. -/
theorem lt_of_keyLengths? {kind : Nat} {lengths : Nat × Nat} (h : keyLengths? kind = some lengths) :
    kind < 256 := by
  unfold keyLengths? at h
  split at h
  · decide
  · decide
  · decide
  · decide
  · cases h

/-- Two bytes that stand for a number below 65536 are the ones it is written as. -/
theorem bytes_of_kind (low high : UInt8) :
    UInt8.ofNat ((low.toNat + 256 * high.toNat) % 256) = low ∧
      UInt8.ofNat ((low.toNat + 256 * high.toNat) / 256) = high := by
  have hlow := low.toNat_lt
  have hhigh := high.toNat_lt
  constructor
  · rw [show (low.toNat + 256 * high.toNat) % 256 = low.toNat by omega, UInt8.ofNat_toNat]
  · rw [show (low.toNat + 256 * high.toNat) / 256 = high.toNat by omega, UInt8.ofNat_toNat]

theorem kind_of_bytes {kind : Nat} (h : kind < 256) :
    (UInt8.ofNat (kind % 256)).toNat + 256 * (UInt8.ofNat (kind / 256)).toNat = kind := by
  rw [UInt8.toNat_ofNat', UInt8.toNat_ofNat']
  omega

/-! ## The target -/

theorem readTarget?_eq_some_iff {bs : Bytes} {target : Option Bytes} :
    readTarget? bs = some target ↔
      (∀ t, target = some t → t.length = targetLength) ∧
        ∃ rest, bs = writeTarget target ++ rest := by
  constructor
  · intro h
    unfold readTarget? at h
    split at h
    · rename_i rest
      cases h
      exact ⟨nofun, rest, rfl⟩
    · rename_i rest
      obtain ⟨⟨t, back⟩, hsplit, rfl⟩ := Option.map_eq_some_iff.mp h
      obtain ⟨hlength, rfl⟩ := split?_eq_some_iff.mp hsplit
      refine ⟨fun t' ht => ?_, back, rfl⟩
      cases ht
      exact hlength
    · cases h
  · rintro ⟨hlength, rest, rfl⟩
    cases target with
    | none => rfl
    | some t =>
      rw [writeTarget, List.cons_append, readTarget?, ← hlength t rfl, split?_append]
      rfl

/-! ## The whole header -/

/-- Reading a written item gives it back, whatever follows. -/
theorem read?_write_append {d : DataItem} (h : d.Fits) (rest : Bytes) :
    read? (d.write ++ rest) = some d := by
  have hkind := kind_of_bytes (lt_of_keyLengths? h.keys)
  have htarget : readTarget? (writeTarget d.target ++ rest) = some d.target :=
    readTarget?_eq_some_iff.mpr ⟨h.target, rest, rfl⟩
  simp only [write, List.cons_append, List.nil_append, List.append_assoc, read?, hkind, h.keys,
    split?_append, htarget, Option.map_some]

/-- What is read stands, written, at the front. -/
theorem exists_eq_write_append {bs : Bytes} {d : DataItem} (h : read? bs = some d) :
    d.Fits ∧ ∃ rest, bs = d.write ++ rest := by
  unfold read? at h
  split at h
  · rename_i low high rest
    simp only at h
    split at h
    · cases h
    · rename_i signatureLength ownerLength hkeys
      split at h
      · cases h
      · rename_i signature afterSignature hsignature
        split at h
        · cases h
        · rename_i owner afterOwner howner
          obtain ⟨target, htarget, rfl⟩ := Option.map_eq_some_iff.mp h
          obtain ⟨rfl, rfl⟩ := split?_eq_some_iff.mp hsignature
          obtain ⟨rfl, rfl⟩ := split?_eq_some_iff.mp howner
          obtain ⟨hlength, more, rfl⟩ := readTarget?_eq_some_iff.mp htarget
          refine ⟨⟨hkeys, hlength⟩, more, ?_⟩
          obtain ⟨hlow, hhigh⟩ := bytes_of_kind low high
          simp only [write, hlow, hhigh, List.cons_append, List.nil_append, List.append_assoc]
  · cases h

theorem read?_eq_some_iff {bs : Bytes} {d : DataItem} :
    read? bs = some d ↔ d.Fits ∧ ∃ rest, bs = d.write ++ rest := by
  constructor
  · exact exists_eq_write_append
  · rintro ⟨hfits, rest, rfl⟩
    exact read?_write_append hfits rest

/-- A header that is cut off anywhere is no header. -/
theorem read?_take_write {d : DataItem} (h : d.Fits) {n : Nat} (hn : n < d.write.length) :
    read? (d.write.take n) = none := by
  cases hread : read? (d.write.take n) with
  | none => rfl
  | some e =>
    obtain ⟨he, rest, hrest⟩ := exists_eq_write_append hread
    -- The item that was read from the part would also be read from the whole.
    have hwhole : d.write = e.write ++ (rest ++ d.write.drop n) := by
      rw [← List.append_assoc, ← hrest, List.take_append_drop]
    have hsame : read? d.write = some e := by
      rw [hwhole]
      exact read?_write_append he _
    have hself : read? d.write = some d := by
      simpa using read?_write_append h []
    rw [hself] at hsame
    cases hsame
    have hlength := congrArg List.length hrest
    rw [List.length_take_of_le (Nat.le_of_lt hn), List.length_append] at hlength
    omega

/-- A flag that announces neither no target nor one makes the bytes no header. -/
theorem readTarget?_of_other_flag {flag : UInt8} (h₀ : flag ≠ 0) (h₁ : flag ≠ 1) (rest : Bytes) :
    readTarget? (flag :: rest) = none := by
  unfold readTarget?
  split
  · rename_i heq
    exact absurd (List.cons.inj heq).1 h₀
  · rename_i heq
    exact absurd (List.cons.inj heq).1 h₁
  · rfl

/-- Where the fields of an item stand in bytes that it is read from: one behind the other, at the
places that the lengths of its type fix, and all of them before the end. -/
structure StandsIn (d : DataItem) (bs : Bytes) (signatureLength ownerLength : Nat) : Prop where
  keys : keyLengths? d.signatureType = some (signatureLength, ownerLength)
  inRange : 2 + signatureLength + ownerLength + (writeTarget d.target).length ≤ bs.length
  signature : d.signature = (bs.drop 2).take signatureLength
  owner : d.owner = (bs.drop (2 + signatureLength)).take ownerLength
  target : writeTarget d.target =
    (bs.drop (2 + signatureLength + ownerLength)).take (writeTarget d.target).length

theorem standsIn_of_read? {bs : Bytes} {d : DataItem} (h : read? bs = some d) :
    d.StandsIn bs d.signature.length d.owner.length := by
  obtain ⟨hfits, rest, rfl⟩ := exists_eq_write_append h
  have hsignature : (d.write ++ rest).drop 2 =
      d.signature ++ (d.owner ++ (writeTarget d.target ++ rest)) := by
    simp [write]
  have howner : (d.write ++ rest).drop (2 + d.signature.length) =
      d.owner ++ (writeTarget d.target ++ rest) := by
    rw [← List.drop_drop, hsignature, List.drop_left]
  have htarget : (d.write ++ rest).drop (2 + d.signature.length + d.owner.length) =
      writeTarget d.target ++ rest := by
    rw [← List.drop_drop, howner, List.drop_left]
  refine ⟨hfits.keys, ?_, ?_, ?_, ?_⟩
  · simp [write]
    omega
  · rw [hsignature, List.take_left]
  · rw [howner, List.take_left]
  · rw [htarget, List.take_left]

/-- **Reading accepts exactly the headers.**  An item is read from just the byte strings that begin
with its written form, its lengths being those of its type.  What follows the form makes no
difference.  Each field is read from its place, and no place lies beyond the end.  A form that is
cut off anywhere, an unknown signature type and any other flag are refused. -/
theorem read?_exactly_headers :
    (∀ bs d, read? bs = some d ↔ d.Fits ∧ ∃ rest, bs = d.write ++ rest) ∧
    (∀ d : DataItem, d.Fits → ∀ rest, read? (d.write ++ rest) = some d) ∧
    (∀ bs d, read? bs = some d → ∃ n m, d.StandsIn bs n m) ∧
    (∀ d : DataItem, d.Fits → ∀ n < d.write.length, read? (d.write.take n) = none) ∧
    (∀ low high rest, keyLengths? (low.toNat + 256 * high.toNat) = none →
      read? (low :: high :: rest) = none) ∧
    (∀ d : DataItem, d.Fits → ∀ flag rest, flag ≠ 0 → flag ≠ 1 →
      read? (UInt8.ofNat (d.signatureType % 256) :: UInt8.ofNat (d.signatureType / 256)
        :: (d.signature ++ (d.owner ++ flag :: rest))) = none) := by
  refine ⟨fun bs d => read?_eq_some_iff, fun d h rest => read?_write_append h rest,
    fun bs d h => ⟨_, _, standsIn_of_read? h⟩, fun d h n hn => read?_take_write h hn,
    fun low high rest h => ?_, fun d h flag rest h₀ h₁ => ?_⟩
  · simp only [read?, h]
  · have hkind := kind_of_bytes (lt_of_keyLengths? h.keys)
    simp only [read?, hkind, h.keys, split?_append, readTarget?_of_other_flag h₀ h₁,
      Option.map_none]

/-- A message of the third signature type, as it stands at the front of a longer byte string, cut
off in its target, and with a flag that says nothing. -/
theorem message_of_third_type :
    let d : DataItem :=
      ⟨3, List.replicate 65 7, List.replicate 65 1, some (List.replicate 32 9)⟩
    d.Fits ∧ read? (d.write ++ [0, 0]) = some d ∧ (∃ n m, d.StandsIn (d.write ++ [0, 0]) n m) ∧
      read? (d.write.take 164) = none ∧
      keyLengths? ((5 : UInt8).toNat + 256 * (0 : UInt8).toNat) = none ∧ read? [5, 0, 1] = none ∧
      read? (UInt8.ofNat (d.signatureType % 256) :: UInt8.ofNat (d.signatureType / 256)
        :: (d.signature ++ (d.owner ++ [2, 0]))) = none := by
  intro d
  have hfits : d.Fits := ⟨by decide, by decide⟩
  obtain ⟨-, hwritten, hstands, hcut, hunknown, hflag⟩ := read?_exactly_headers
  have hread := hwritten d hfits [0, 0]
  exact ⟨hfits, hread, hstands _ d hread,
    hcut d hfits 164 (by decide +kernel), by decide, hunknown 5 0 [1] (by decide),
    hflag d hfits 2 [0] (by decide) (by decide)⟩

end DataItem
end AffinityGate
