import AffinityGate.Proofs.Text.Utf8
import AffinityGate.Text.Base64
import AffinityGate.Text.Blank
import AffinityGate.Text.Form

/-!
# URL-safe texts in URLs

The characters of a URL-safe text are no blanks and mean nothing in a path or a query, so that the
text is read from either as it is written.
-/

namespace AffinityGate

theorem trim_of_no_blank {cs : List Char} (h : ∀ c ∈ cs, isBlank c = false) : trim cs = cs := by
  have hstart : cs.dropWhile isBlank = cs :=
    dropWhile_eq_self_of_head fun c hc => h c (List.mem_of_mem_head? hc)
  have hend : cs.reverse.dropWhile isBlank = cs.reverse :=
    dropWhile_eq_self_of_head fun c hc => h c (List.mem_reverse.mp (List.mem_of_mem_head? hc))
  rw [trim, hstart, trimEnd, hend, List.reverse_reverse]

namespace Base64

/-! ## The characters of a text -/

theorem digit_mem (n : Nat) : digit n ∈ urlSafe := by
  rw [digit, List.getD_eq_getElem?_getD]
  cases h : urlSafe[n]? with
  | none => decide
  | some c => exact List.mem_of_getElem? h

theorem mem_encode {bs : Bytes} {c : Char} (h : c ∈ encode bs) : c ∈ urlSafe := by
  fun_induction encode bs with
  | case1 => cases h
  | case2 a =>
    simp only [List.mem_cons, List.not_mem_nil, or_false] at h
    rcases h with rfl | rfl <;> exact digit_mem _
  | case3 a b =>
    simp only [List.mem_cons, List.not_mem_nil, or_false] at h
    rcases h with rfl | rfl | rfl <;> exact digit_mem _
  | case4 a b c rest ih =>
    simp only [List.mem_cons] at h
    rcases h with rfl | rfl | rfl | rfl | h
    · exact digit_mem _
    · exact digit_mem _
    · exact digit_mem _
    · exact digit_mem _
    · exact ih h

theorem encode_ne_nil {bs : Bytes} (h : bs ≠ []) : encode bs ≠ [] := by
  cases bs with
  | nil => exact absurd rfl h
  | cons a bs =>
    match bs with
    | [] => simp [encode]
    | [_] => simp [encode]
    | _ :: _ :: _ => simp [encode]

/-- Six bits make one digit, and so do the two or four bits that are left over. -/
theorem length_encode (bs : Bytes) : (encode bs).length = (4 * bs.length + 2) / 3 := by
  fun_induction encode bs with
  | case1 => rfl
  | case2 a => simp only [List.length_cons, List.length_nil]
  | case3 a b => simp only [List.length_cons, List.length_nil]
  | case4 a b c rest ih =>
    simp only [List.length_cons, ih]
    omega

/-- A byte that no part of a URL reads as anything but itself: it is no slash, question mark,
ampersand, equals sign, plus or percent sign. -/
def isInert (b : UInt8) : Bool :=
  b != 0x2F && b != 0x3F && b != 0x26 && b != 0x3D && b != 0x2B && b != 0x25

theorem all_urlSafe :
    (urlSafe.all fun c => !isBlank c && (String.utf8EncodeChar c).all isInert) = true := by
  decide +kernel

theorem inert_of_urlSafe {c : Char} (h : c ∈ urlSafe) :
    isBlank c = false ∧ ∀ b ∈ String.utf8EncodeChar c, isInert b = true := by
  have := List.all_eq_true.mp all_urlSafe c h
  simpa using this

theorem isInert_of_mem {bs : Bytes} {b : UInt8} (h : b ∈ Utf8.encode (encode bs)) :
    isInert b = true := by
  obtain ⟨c, hc, hb⟩ := List.mem_flatMap.mp h
  exact (inert_of_urlSafe (mem_encode hc)).2 b hb

/-! ## Reading a text back -/

theorem trim_encode (bs : Bytes) : trim (encode bs) = encode bs :=
  trim_of_no_blank fun _ hc => (inert_of_urlSafe (mem_encode hc)).1

theorem percentDecode_encode (bs : Bytes) :
    Percent.decode (Utf8.encode (encode bs)) = Utf8.encode (encode bs) := by
  refine Percent.decode_of_ne fun b hb heq => ?_
  have := isInert_of_mem hb
  simp [isInert, heq] at this

/-- A text is a form component that stands for itself. -/
theorem component_encode (bs : Bytes) :
    Form.component (Utf8.encode (encode bs)) = encode bs := by
  have hplus : (Utf8.encode (encode bs)).map (fun b => if b = 0x2B then 0x20 else b) =
      Utf8.encode (encode bs) := by
    refine List.map_congr_left (fun b hb => ?_) |>.trans (List.map_id _)
    have := isInert_of_mem hb
    rw [if_neg (by rintro rfl; simp [isInert] at this), id]
  rw [Form.component, hplus, percentDecode_encode, Utf8.lossy_encode]

end Base64
end AffinityGate
