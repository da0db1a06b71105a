/-!
# Cutting lists at separators

`pieces` returns what stands between the separators, empty pieces included, so that joining the
pieces by the separator gives the list back (`join_pieces`).  `cutAt` cuts once.
`takeWhile_append_stop` and `dropWhile_append_stop` cut a list where a predicate first fails.
-/

namespace AffinityGate

variable {α : Type}

/-- What stands between the separators. -/
def pieces [DecidableEq α] (sep : α) : List α → List (List α)
  | [] => [[]]
  | x :: xs =>
    if x = sep then
      [] :: pieces sep xs
    else
      match pieces sep xs with
      | [] => [[x]]
      | p :: ps => (x :: p) :: ps

/-- The pieces with one separator between each two. -/
def join (sep : α) : List (List α) → List α
  | [] => []
  | [p] => p
  | p :: ps => p ++ sep :: join sep ps

/-- What stands before and after the first separator, if there is one. -/
def cutAt [DecidableEq α] (sep : α) : List α → Option (List α × List α)
  | [] => none
  | x :: xs => if x = sep then some ([], xs) else (cutAt sep xs).map fun r => (x :: r.1, r.2)

theorem pieces_ne_nil [DecidableEq α] (sep : α) (xs : List α) : pieces sep xs ≠ [] := by
  cases xs with
  | nil => simp [pieces]
  | cons x xs =>
    unfold pieces
    split
    · simp
    · split <;> simp

theorem join_cons_cons (sep x : α) (p : List α) (ps : List (List α)) :
    join sep ((x :: p) :: ps) = x :: join sep (p :: ps) := by
  cases ps <;> rfl

theorem join_pieces [DecidableEq α] (sep : α) (xs : List α) : join sep (pieces sep xs) = xs := by
  induction xs with
  | nil => rfl
  | cons x xs ih =>
    unfold pieces
    split
    · rename_i h
      cases hp : pieces sep xs with
      | nil => exact absurd hp (pieces_ne_nil sep xs)
      | cons p ps =>
        rw [hp] at ih
        simp [join, ih, h]
    · cases hp : pieces sep xs with
      | nil => exact absurd hp (pieces_ne_nil sep xs)
      | cons p ps =>
        rw [hp] at ih
        simp [join_cons_cons, ih]

/-- What satisfies a predicate is taken up to what does not. -/
theorem takeWhile_append_stop {p : α → Bool} {front rest : List α} (hf : ∀ x ∈ front, p x = true)
    (hr : ∀ x ∈ rest.head?, p x = false) : (front ++ rest).takeWhile p = front := by
  rw [List.takeWhile_append_of_pos hf]
  cases rest with
  | nil => simp
  | cons x rest => simp [hr x rfl]

/-- What satisfies a predicate is dropped up to what does not. -/
theorem dropWhile_append_stop {p : α → Bool} {front rest : List α} (hf : ∀ x ∈ front, p x = true)
    (hr : ∀ x ∈ rest.head?, p x = false) : (front ++ rest).dropWhile p = rest := by
  rw [List.dropWhile_append_of_pos hf]
  cases rest with
  | nil => rfl
  | cons x rest => simp [hr x rfl]

/-- What a list does not have stands behind all of it. -/
theorem takeWhile_of_not_mem [BEq α] [LawfulBEq α] {xs : List α} {x : α} (h : x ∉ xs) :
    xs.takeWhile (· != x) = xs := by
  have htake : (xs ++ []).takeWhile (· != x) = xs :=
    takeWhile_append_stop (fun y hy => bne_iff_ne.mpr fun heq => h (heq ▸ hy)) (by simp)
  rwa [List.append_nil] at htake

/-- Drops a prefix if the list starts with it. -/
def stripStart? [DecidableEq α] : List α → List α → Option (List α)
  | [], xs => some xs
  | _ :: _, [] => none
  | p :: ps, x :: xs => if p = x then stripStart? ps xs else none

end AffinityGate
