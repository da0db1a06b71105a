import Mathlib.Data.List.DropRight
import AffinityGate.Text.Blank

/-!
# The ends of stripped texts

What is dropped from the end of a list leaves no such element there, and dropping twice drops what
the wider of the two predicates drops.  A trimmed text has a blank at neither end and keeps every
character that is none.
-/

namespace AffinityGate

/-! ## Dropping from the end -/

section DropRight

variable {α : Type} {p q : α → Bool}

theorem rdropWhile_append_of_pos {front back : List α} (h : ∀ x ∈ back, p x = true) :
    (front ++ back).rdropWhile p = front.rdropWhile p := by
  rw [List.rdropWhile, List.reverse_append, List.dropWhile_append_of_pos, List.rdropWhile]
  exact fun x hx => h x (List.mem_reverse.mp hx)

/-- What is dropped first makes no difference if it is dropped later anyway. -/
theorem rdropWhile_rdropWhile_of_imp (h : ∀ x, p x = true → q x = true) (l : List α) :
    (l.rdropWhile p).rdropWhile q = l.rdropWhile q := by
  have hsplit : l.rdropWhile p ++ l.rtakeWhile p = l := List.rdropWhile_append_rtakeWhile
  have hdropped : ∀ x ∈ l.rtakeWhile p, q x = true := fun x hx =>
    h x (List.mem_rtakeWhile_imp hx)
  rw [← rdropWhile_append_of_pos hdropped, hsplit]

theorem rdropWhile_eq_self_iff_getLast? {l : List α} :
    l.rdropWhile p = l ↔ ∀ x ∈ l.getLast?, p x = false := by
  rw [List.rdropWhile_eq_self_iff]
  constructor
  · intro h x hx
    obtain ⟨hne, rfl⟩ := List.mem_getLast?_eq_getLast hx
    simpa using h hne
  · intro h hne
    simpa using h _ (List.getLast?_eq_some_getLast hne)

theorem getLast?_rdropWhile {l : List α} {x : α} (h : x ∈ (l.rdropWhile p).getLast?) :
    p x = false :=
  rdropWhile_eq_self_iff_getLast?.mp (List.rdropWhile_idempotent p l) x h

end DropRight

/-! ## Trimmed texts -/

theorem head?_trim {cs : List Char} {c : Char} (h : c ∈ (trim cs).head?) : isBlank c = false :=
  head?_dropWhile_false (head?_trimEnd h)

theorem getLast?_trim {cs : List Char} {c : Char} (h : c ∈ (trim cs).getLast?) :
    isBlank c = false :=
  getLast?_rdropWhile (p := isBlank) h

/-- A text is what is left of it once it is trimmed, between blanks. -/
theorem exists_trim (cs : List Char) : ∃ lead trail, cs = lead ++ trim cs ++ trail ∧
    (∀ c ∈ lead, isBlank c = true) ∧ ∀ c ∈ trail, isBlank c = true := by
  have hinner : trim cs ++ (cs.dropWhile isBlank).rtakeWhile isBlank = cs.dropWhile isBlank :=
    List.rdropWhile_append_rtakeWhile
  refine ⟨cs.takeWhile isBlank, (cs.dropWhile isBlank).rtakeWhile isBlank, ?_, ?_, ?_⟩
  · rw [List.append_assoc, hinner, List.takeWhile_append_dropWhile]
  · exact fun c hc => List.all_eq_true.mp List.all_takeWhile c hc
  · exact fun c hc => List.mem_rtakeWhile_imp hc

/-- What stands between blanks and has a blank at neither end is what trimming leaves. -/
theorem trim_between {lead core trail : List Char} (hlead : ∀ c ∈ lead, isBlank c = true)
    (htrail : ∀ c ∈ trail, isBlank c = true) (hhead : ∀ c ∈ core.head?, isBlank c = false)
    (hlast : ∀ c ∈ core.getLast?, isBlank c = false) : trim (lead ++ core ++ trail) = core := by
  cases core with
  | nil =>
    rw [List.append_nil, trim_eq_nil_iff, List.all_append, List.all_eq_true.mpr hlead,
      List.all_eq_true.mpr htrail, Bool.true_and]
  | cons c core =>
    have hfront : (lead ++ (c :: core ++ trail)).dropWhile isBlank = c :: core ++ trail := by
      rw [List.dropWhile_append_of_pos hlead]
      exact dropWhile_eq_self_of_head hhead
    have hback : (c :: core ++ trail).rdropWhile isBlank = c :: core := by
      rw [rdropWhile_append_of_pos htrail]
      exact rdropWhile_eq_self_iff_getLast?.mpr hlast
    rw [List.append_assoc, trim, hfront]
    exact hback

/-- A text is another one between blanks, and the other has a blank at neither end. -/
def TrimmedTo (cs core : List Char) : Prop :=
  ∃ lead trail, cs = lead ++ core ++ trail ∧
    (∀ c ∈ lead, isBlank c = true) ∧ (∀ c ∈ trail, isBlank c = true) ∧
    (∀ c ∈ core.head?, isBlank c = false) ∧ ∀ c ∈ core.getLast?, isBlank c = false

theorem trimmedTo_iff {cs core : List Char} : TrimmedTo cs core ↔ trim cs = core := by
  constructor
  · rintro ⟨lead, trail, rfl, hlead, htrail, hhead, hlast⟩
    exact trim_between hlead htrail hhead hlast
  · rintro rfl
    obtain ⟨lead, trail, hcs, hlead, htrail⟩ := exists_trim cs
    exact ⟨lead, trail, hcs, hlead, htrail, fun _ => head?_trim, fun _ => getLast?_trim⟩

/-- What has a trimmed form that is not empty is not blank. -/
theorem TrimmedTo.exists_not_blank {cs core : List Char} (h : TrimmedTo cs core) (hne : core ≠ []) :
    ∃ c ∈ cs, isBlank c = false := by
  obtain ⟨lead, trail, rfl, -, -, hhead, -⟩ := h
  obtain ⟨c, core, rfl⟩ := List.exists_cons_of_ne_nil hne
  exact ⟨c, by simp, hhead c rfl⟩

/-- Trimming leaves nothing exactly of what is blank throughout. -/
theorem trimText_eq_empty_iff {s : String} :
    trimText s = "" ↔ ∀ c ∈ s.toList, isBlank c = true := by
  rw [trimText, String.ofList_eq_empty_iff, trim_eq_nil_iff, List.all_eq_true]

/-- Trimming keeps what is no blank. -/
theorem mem_trim {cs : List Char} {c : Char} (h : c ∈ cs) (hc : isBlank c = false) :
    c ∈ trim cs := by
  obtain ⟨lead, trail, hcs, hlead, htrail⟩ := exists_trim cs
  rw [hcs, List.mem_append, List.mem_append] at h
  rcases h with (h | h) | h
  · rw [hlead c h] at hc
    cases hc
  · exact h
  · rw [htrail c h] at hc
    cases hc

end AffinityGate
