import AffinityGate.Http.Token
import AffinityGate.Proofs.Text.Pieces
import AffinityGate.Proofs.Text.Utf8
import AffinityGate.Text.Blank

/-!
# Header values as lists

The values of a header whose lines make one list: the entries are what stands between the commas,
without the space around it, and an entry that is nothing but space does not count.  Space around a
value changes none of its entries (`entries_strip`), and two values with a comma between them have
the entries of both (`entries_append`).  The values that are read as text are the visible ones, and
trimming their text strips their bytes (`trimText_textOf`).
-/

namespace AffinityGate.Http.FieldList

/-- The comma. -/
def separator : UInt8 := 0x2C

/-- Space and tab. -/
def isSpace (b : UInt8) : Bool :=
  b == 0x20 || b == 0x09

/-- Bytes without the space at both ends. -/
def strip (bs : Bytes) : Bytes :=
  ((bs.dropWhile isSpace).reverse.dropWhile isSpace).reverse

/-- The entries of one line. -/
def entries (line : Bytes) : List Bytes :=
  ((pieces separator line).map strip).filter (!·.isEmpty)

/-- The entries of all lines, in order. -/
def entriesOf (lines : List Bytes) : List Bytes :=
  lines.flatMap entries

/-! ## Space -/

theorem ne_separator {b : UInt8} (h : isSpace b = true) : b ≠ separator := by
  rintro rfl
  exact absurd h (by decide)

/-- What stripping leaves has only space around it. -/
theorem exists_eq_strip (bs : Bytes) : ∃ front back, bs = front ++ strip bs ++ back ∧
    (∀ b ∈ front, isSpace b = true) ∧ ∀ b ∈ back, isSpace b = true := by
  let kept := bs.dropWhile isSpace
  refine ⟨bs.takeWhile isSpace, (kept.reverse.takeWhile isSpace).reverse, ?_, ?_, ?_⟩
  · have hkept : kept = strip bs ++ (kept.reverse.takeWhile isSpace).reverse := by
      rw [strip, ← List.reverse_append, List.takeWhile_append_dropWhile, List.reverse_reverse]
    rw [List.append_assoc, ← hkept]
    exact List.takeWhile_append_dropWhile.symm
  · exact List.all_eq_true.mp List.all_takeWhile
  · exact fun b hb => List.all_eq_true.mp List.all_takeWhile b (List.mem_reverse.mp hb)

theorem mem_of_mem_strip {b : UInt8} {bs : Bytes} (h : b ∈ strip bs) : b ∈ bs := by
  obtain ⟨front, back, hbs, -, -⟩ := exists_eq_strip bs
  rw [hbs]
  exact List.mem_append_left back (List.mem_append_right front h)

theorem strip_cons {b : UInt8} (h : isSpace b = true) (bs : Bytes) :
    strip (b :: bs) = strip bs := by
  rw [strip, List.dropWhile_cons_of_pos h, strip]

theorem strip_concat {b : UInt8} (h : isSpace b = true) (bs : Bytes) :
    strip (bs ++ [b]) = strip bs := by
  rw [strip, strip, List.dropWhile_append]
  split
  · rename_i hempty
    rw [List.isEmpty_iff.mp hempty, List.dropWhile_cons_of_pos h]
    rfl
  · rw [List.reverse_append, List.reverse_singleton, List.singleton_append,
      List.dropWhile_cons_of_pos h]

theorem strip_eq_nil_iff {bs : Bytes} : strip bs = [] ↔ ∀ b ∈ bs, isSpace b = true := by
  constructor
  · intro h
    obtain ⟨front, back, hbs, hfront, hback⟩ := exists_eq_strip bs
    rw [h, List.append_nil] at hbs
    rw [hbs]
    exact fun b hb => (List.mem_append.mp hb).elim (hfront b) (hback b)
  · intro h
    rw [strip, dropWhile_eq_nil_iff_all.mpr (List.all_eq_true.mpr h)]
    rfl

theorem strip_of_not_space {bs : Bytes} (h : ∀ b ∈ bs, isSpace b = false) : strip bs = bs := by
  have hstay {xs : Bytes} (hxs : ∀ b ∈ xs, isSpace b = false) : xs.dropWhile isSpace = xs :=
    dropWhile_eq_self_of_head fun b hb => hxs b (List.mem_of_mem_head? hb)
  rw [strip, hstay h, hstay fun b hb => h b (List.mem_reverse.mp hb), List.reverse_reverse]

/-! ## Visible values -/

/-- Bytes of visible ASCII, space and tab. -/
def isVisible (b : UInt8) : Bool :=
  (0x20 ≤ b && b < 0x7F) || b == 0x09

/-- The text whose characters have the numbers of bytes. -/
def textOf (bs : Bytes) : String :=
  String.ofList (bs.map fun b => Char.ofNat b.toNat)

theorem visibleText?_eq (bs : Bytes) :
    visibleText? bs = if bs.all isVisible then some (textOf bs) else none := rfl

theorem textOf_eq_empty_iff {bs : Bytes} : textOf bs = "" ↔ bs = [] := by
  simp [textOf]

theorem ascii_of_isVisible {b : UInt8} (h : isVisible b = true) : b < 0x80 := by
  simp only [isVisible, Bool.or_eq_true, Bool.and_eq_true, decide_eq_true_eq, beq_iff_eq] at h
  rw [UInt8.lt_iff_toNat_lt]
  rcases h with ⟨-, h⟩ | rfl
  · exact Nat.lt_trans (UInt8.lt_iff_toNat_lt.mp h) (by decide)
  · decide

theorem isVisible_of_isSpace {b : UInt8} (h : isSpace b = true) : isVisible b = true := by
  simp only [isSpace, Bool.or_eq_true, beq_iff_eq] at h
  rcases h with rfl | rfl
  · decide
  · decide

/-- The text of a visible value is written as the value. -/
theorem ofText_textOf {bs : Bytes} (h : ∀ b ∈ bs, isVisible b = true) :
    Utf8.ofText (textOf bs) = bs := by
  rw [Utf8.ofText, textOf, String.toList_ofList]
  exact Utf8.encode_ascii fun b hb => ascii_of_isVisible (h b hb)

/-- Of what is visible the blanks are space and tab. -/
theorem isBlank_of_isVisible {b : UInt8} (h : isVisible b = true) :
    isBlank (Char.ofNat b.toNat) = isSpace b := by
  have hall : ∀ b, isVisible b = true → isBlank (Char.ofNat b.toNat) = isSpace b :=
    forall_byte (by decide +kernel)
  exact hall b h

theorem dropWhile_isBlank {bs : Bytes} (h : ∀ b ∈ bs, isVisible b = true) :
    (bs.map fun b => Char.ofNat b.toNat).dropWhile isBlank =
      (bs.dropWhile isSpace).map fun b => Char.ofNat b.toNat := by
  induction bs with
  | nil => rfl
  | cons b bs ih =>
    rw [List.forall_mem_cons] at h
    rw [List.map_cons, List.dropWhile_cons, List.dropWhile_cons, isBlank_of_isVisible h.1]
    split
    · exact ih h.2
    · rfl

/-- The blanks around the text of a visible value are the space around the value. -/
theorem trimText_textOf {bs : Bytes} (h : ∀ b ∈ bs, isVisible b = true) :
    trimText (textOf bs) = textOf (strip bs) := by
  have hkept : ∀ b ∈ (bs.dropWhile isSpace).reverse, isVisible b = true := fun b hb =>
    h b ((List.dropWhile_sublist _).mem (List.mem_reverse.mp hb))
  rw [trimText, textOf, String.toList_ofList, trim, trimEnd, dropWhile_isBlank h,
    ← List.map_reverse, dropWhile_isBlank hkept, ← List.map_reverse, textOf, strip]

/-! ## Entries -/

theorem entries_cons {b : UInt8} (h : isSpace b = true) (line : Bytes) :
    entries (b :: line) = entries line := by
  obtain ⟨p, ps, hline, hcons⟩ := exists_pieces_cons (ne_separator h) line
  rw [entries, hcons, List.map_cons, strip_cons h, entries, hline, List.map_cons]

theorem entries_concat {b : UInt8} (h : isSpace b = true) (line : Bytes) :
    entries (line ++ [b]) = entries line := by
  obtain ⟨ps, p, hline, hconcat⟩ := exists_pieces_concat (ne_separator h) line
  simp only [entries, hconcat, hline, List.map_append, List.map_cons, strip_concat h]

theorem entries_space_append {space : Bytes} (h : ∀ b ∈ space, isSpace b = true) (line : Bytes) :
    entries (space ++ line) = entries line := by
  induction space with
  | nil => rfl
  | cons b space ih =>
    rw [List.forall_mem_cons] at h
    rw [List.cons_append, entries_cons h.1, ih h.2]

theorem entries_append_space {space : Bytes} (h : ∀ b ∈ space, isSpace b = true) (line : Bytes) :
    entries (line ++ space) = entries line := by
  induction space generalizing line with
  | nil => rw [List.append_nil]
  | cons b space ih =>
    rw [List.forall_mem_cons] at h
    rw [List.append_cons, ih h.2, entries_concat h.1]

/-- Space around a value is no part of its entries. -/
theorem entries_strip (line : Bytes) : entries (strip line) = entries line := by
  obtain ⟨front, back, hline, hfront, hback⟩ := exists_eq_strip line
  calc entries (strip line)
    _ = entries (front ++ strip line) := (entries_space_append hfront _).symm
    _ = entries (front ++ strip line ++ back) := (entries_append_space hback _).symm
    _ = entries line := by rw [← hline]

/-- Two values with a comma between them. -/
theorem entries_append (xs ys : Bytes) :
    entries (xs ++ separator :: ys) = entries xs ++ entries ys := by
  rw [entries, pieces_append_separator, List.map_append, List.filter_append, entries, entries]

/-- A value that is one entry. -/
theorem entries_of_token {token : Bytes} (hne : token ≠ [])
    (h : ∀ b ∈ token, b ≠ separator ∧ isSpace b = false) : entries token = [token] := by
  have hmem : separator ∉ token := fun hmem => (h _ hmem).1 rfl
  have hstrip : strip token = token := strip_of_not_space fun b hb => (h b hb).2
  rw [entries, pieces_of_not_mem hmem, List.map_singleton, hstrip,
    List.filter_cons_of_pos (by simpa using hne), List.filter_nil]

/-- A value without entries is made of commas and space. -/
theorem entries_eq_nil_iff {line : Bytes} :
    entries line = [] ↔ ∀ b ∈ line, b = separator ∨ isSpace b = true := by
  rw [← forall_mem_pieces_iff]
  simp [entries, strip_eq_nil_iff]

end AffinityGate.Http.FieldList
