import AffinityGate.Text.Pieces

/-!
# Pieces of lists that are put together

The pieces of a list that is put together at a separator are those of its parts
(`pieces_append_separator`), and what is added to either end of a list is added to its first or to
its last piece.
-/

namespace AffinityGate

variable {α : Type} [DecidableEq α] {sep : α}

/-- What is no separator is put in front of the first piece. -/
theorem exists_pieces_cons {x : α} (h : x ≠ sep) (xs : List α) :
    ∃ p ps, pieces sep xs = p :: ps ∧ pieces sep (x :: xs) = (x :: p) :: ps := by
  cases hp : pieces sep xs with
  | nil => exact absurd hp (pieces_ne_nil sep xs)
  | cons p ps => exact ⟨p, ps, rfl, by rw [pieces, if_neg h, hp]⟩

/-- What is no separator is put behind the last piece. -/
theorem exists_pieces_concat {x : α} (h : x ≠ sep) (xs : List α) :
    ∃ ps p, pieces sep xs = ps ++ [p] ∧ pieces sep (xs ++ [x]) = ps ++ [p ++ [x]] := by
  induction xs with
  | nil => exact ⟨[], [], rfl, by simp [pieces, h]⟩
  | cons y ys ih =>
    obtain ⟨ps, p, hys, hconcat⟩ := ih
    rw [List.cons_append]
    by_cases hy : y = sep
    · exact ⟨[] :: ps, p, by rw [pieces, if_pos hy, hys]; rfl,
        by rw [pieces, if_pos hy, hconcat]; rfl⟩
    · simp only [pieces, if_neg hy, hys, hconcat]
      cases ps with
      | nil => exact ⟨[], y :: p, rfl, rfl⟩
      | cons q qs => exact ⟨(y :: q) :: qs, p, rfl, rfl⟩

theorem pieces_append_separator (xs ys : List α) :
    pieces sep (xs ++ sep :: ys) = pieces sep xs ++ pieces sep ys := by
  induction xs with
  | nil => simp [pieces]
  | cons x xs ih =>
    rw [List.cons_append]
    by_cases hx : x = sep
    · rw [pieces, if_pos hx, ih, pieces, if_pos hx, List.cons_append]
    · obtain ⟨p, ps, hxs, hcons⟩ := exists_pieces_cons hx xs
      rw [hcons, pieces, if_neg hx, ih, hxs]
      rfl

theorem pieces_of_not_mem {xs : List α} (h : sep ∉ xs) : pieces sep xs = [xs] := by
  induction xs with
  | nil => rfl
  | cons x xs ih =>
    have hne : sep ≠ x := fun heq => h (heq ▸ List.mem_cons_self)
    have hrest : sep ∉ xs := fun hmem => h (List.mem_cons_of_mem x hmem)
    rw [pieces, if_neg (Ne.symm hne), ih hrest]

/-- A piece in front of a separator. -/
theorem pieces_append {xs : List α} (h : sep ∉ xs) (ys : List α) :
    pieces sep (xs ++ sep :: ys) = xs :: pieces sep ys := by
  rw [pieces_append_separator, pieces_of_not_mem h, List.singleton_append]

/-- Two pieces, with a separator in front of each. -/
theorem pieces_pair {xs ys : List α} (hxs : sep ∉ xs) (hys : sep ∉ ys) :
    pieces sep (sep :: (xs ++ sep :: ys)) = [[], xs, ys] := by
  rw [pieces, if_pos rfl, pieces_append hxs, pieces_of_not_mem hys]

/-- The pieces hold what is no separator, and nothing else. -/
theorem forall_mem_pieces_iff {P : α → Prop} {xs : List α} :
    (∀ p ∈ pieces sep xs, ∀ x ∈ p, P x) ↔ ∀ x ∈ xs, x = sep ∨ P x := by
  induction xs with
  | nil => simp [pieces]
  | cons x xs ih =>
    rw [List.forall_mem_cons, ← ih]
    by_cases hx : x = sep
    · simp [pieces, hx]
    · obtain ⟨p, ps, hxs, hcons⟩ := exists_pieces_cons hx xs
      simp [hxs, hcons, hx, and_assoc]

end AffinityGate
