import AffinityGate.Net.Address

/-!
# The text of an address

The text that is written for an address with all its parts is not empty, and holds digits, points
and colons only.
-/

namespace AffinityGate.Net

/-- An address has all its parts: four octets, or eight groups. -/
def Ip.Complete : Ip → Prop
  | .v4 parts => parts.length = 4
  | .v6 groups => groups.length = 8

instance (ip : Ip) : Decidable ip.Complete := by
  cases ip <;> exact inferInstanceAs (Decidable (_ = _))

/-- What addresses are written with. -/
def isAddressChar (c : Char) : Bool :=
  c.isDigit || ('a' ≤ c && c ≤ 'f') || c == '.' || c == ':'

theorem isAddressChar_digitChar : ∀ d < 16, isAddressChar (Nat.digitChar d) = true := by decide

theorem isAddressChar_of_mem_toDigits {n : Nat} {c : Char} (h : c ∈ Nat.toDigits 16 n) :
    isAddressChar c = true := by
  induction n using Nat.strongRecOn with
  | ind n ih =>
    rw [Nat.toDigits_eq_if (by decide)] at h
    split at h
    · rename_i hsmall
      rw [List.mem_singleton.mp h]
      exact isAddressChar_digitChar n hsmall
    · rcases List.mem_append.mp h with h | h
      · exact ih (n / 16) (by omega) h
      · rw [List.mem_singleton.mp h]
        exact isAddressChar_digitChar _ (Nat.mod_lt n (by decide))

/-- What holds of the characters of some texts and of what stands between them holds of the
whole. -/
theorem forall_mem_intercalate {P : Char → Prop} {between : String} {texts : List String}
    (hbetween : ∀ c ∈ between.toList, P c) (htexts : ∀ t ∈ texts, ∀ c ∈ t.toList, P c) :
    ∀ c ∈ (between.intercalate texts).toList, P c := by
  induction texts with
  | nil => simp
  | cons t texts ih =>
    rw [List.forall_mem_cons] at htexts
    cases texts with
    | nil => simpa using htexts.1
    | cons t' texts =>
      intro c hc
      simp only [String.intercalate_cons_cons, String.toList_append, List.mem_append] at hc
      rcases hc with (hc | hc) | hc
      · exact htexts.1 c hc
      · exact hbetween c hc
      · exact ih htexts.2 c hc

theorem isAddressChar_dottedText (parts : List Nat) :
    ∀ c ∈ (dottedText parts).toList, isAddressChar c = true := by
  refine forall_mem_intercalate (List.all_eq_true.mp (by decide)) fun t ht c hc => ?_
  obtain ⟨n, -, rfl⟩ := List.mem_map.mp ht
  rw [Nat.toString_eq_repr, Nat.toList_repr] at hc
  have hdigit := Nat.isDigit_of_mem_toDigits (by decide) (by decide) hc
  simp [isAddressChar, hdigit]

theorem isAddressChar_groupTexts (groups : List Nat) :
    ∀ c ∈ (":".intercalate (groups.map groupText)).toList, isAddressChar c = true := by
  refine forall_mem_intercalate (List.all_eq_true.mp (by decide)) fun t ht c hc => ?_
  obtain ⟨n, -, rfl⟩ := List.mem_map.mp ht
  rw [groupText, String.toList_ofList] at hc
  exact isAddressChar_of_mem_toDigits hc

/-- The text of an address is made of digits, points and colons. -/
theorem isAddressChar_text (ip : Ip) : ∀ c ∈ ip.text.toList, isAddressChar c = true := by
  cases ip with
  | v4 parts => exact isAddressChar_dottedText parts
  | v6 groups =>
    unfold Ip.text groupsText
    simp only
    split
    · intro c hc
      rcases List.mem_append.mp (String.toList_append ▸ hc) with hc | hc
      · exact List.all_eq_true.mp (by decide) c hc
      · exact isAddressChar_dottedText _ c hc
    · split
      · intro c hc
        simp only [String.toList_append, List.mem_append] at hc
        rcases hc with (hc | hc) | hc
        · exact isAddressChar_groupTexts _ c hc
        · exact List.all_eq_true.mp (by decide) c hc
        · exact isAddressChar_groupTexts _ c hc
      · exact isAddressChar_groupTexts groups

theorem intercalate_ne_empty {between first : String} (h : first ≠ "") (texts : List String) :
    between.intercalate (first :: texts) ≠ "" := by
  cases texts with
  | nil => simpa using h
  | cons t texts => simp [String.intercalate_cons_cons, h]

theorem groupText_ne_empty (n : Nat) : groupText n ≠ "" := by
  simp [groupText, Nat.toDigits_ne_nil]

/-- The text of an address is not empty. -/
theorem Ip.Complete.text_ne_empty {ip : Ip} (h : ip.Complete) : ip.text ≠ "" := by
  cases ip with
  | v4 parts =>
    cases parts with
    | nil => cases h
    | cons p parts =>
      refine intercalate_ne_empty ?_ _
      simp [Nat.toString_eq_repr]
  | v6 groups =>
    cases groups with
    | nil => cases h
    | cons g groups =>
      unfold Ip.text groupsText
      simp only
      split
      · simp
      · split
        · simp
        · exact intercalate_ne_empty (groupText_ne_empty g) _

end AffinityGate.Net
