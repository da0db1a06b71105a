/-!
# Blank characters

The characters of the White_Space property, and the trimming of blanks from both ends of a text.
`trim_trim` and `trim_eq_nil_iff` say that trimming is stable and erases exactly the blank texts.
-/

namespace AffinityGate

/-- The White_Space property. -/
def isBlank (c : Char) : Bool :=
  let n := c.toNat
  (0x09 ≤ n && n ≤ 0x0D) || n == 0x20 || n == 0x85 || n == 0xA0 || n == 0x1680
    || (0x2000 ≤ n && n ≤ 0x200A) || n == 0x2028 || n == 0x2029 || n == 0x202F || n == 0x205F
    || n == 0x3000

/-- Blanks removed from the end. -/
def trimEnd (cs : List Char) : List Char :=
  (cs.reverse.dropWhile isBlank).reverse

/-- Blanks removed from both ends. -/
def trim (cs : List Char) : List Char :=
  trimEnd (cs.dropWhile isBlank)

theorem dropWhile_dropWhile {α : Type} (p : α → Bool) (xs : List α) :
    (xs.dropWhile p).dropWhile p = xs.dropWhile p := by
  induction xs with
  | nil => rfl
  | cons x xs ih => by_cases h : p x <;> simp [List.dropWhile, h, ih]

theorem dropWhile_eq_self_of_head {α : Type} {p : α → Bool} {xs : List α}
    (h : ∀ x ∈ xs.head?, p x = false) : xs.dropWhile p = xs := by
  cases xs with
  | nil => rfl
  | cons x xs => simp [List.dropWhile, h x (by simp)]

theorem head?_dropWhile_false {α : Type} {p : α → Bool} {xs : List α} {x : α}
    (h : x ∈ (xs.dropWhile p).head?) : p x = false := by
  induction xs with
  | nil => simp at h
  | cons y ys ih =>
    by_cases hy : p y
    · exact ih (by simpa [List.dropWhile, hy] using h)
    · have : y = x := by simpa [List.dropWhile, hy] using h
      simpa [this] using hy

theorem trimEnd_isPrefix (cs : List Char) : trimEnd cs <+: cs := by
  have h : cs.reverse.dropWhile isBlank <:+ cs.reverse := List.dropWhile_suffix _
  have := List.reverse_prefix.mpr h
  simpa [trimEnd] using this

theorem head?_trimEnd {cs : List Char} {c : Char} (h : c ∈ (trimEnd cs).head?) :
    c ∈ cs.head? := by
  obtain ⟨t, ht⟩ := trimEnd_isPrefix cs
  cases hs : trimEnd cs with
  | nil => simp [hs] at h
  | cons d ds =>
    rw [hs] at h ht
    subst ht
    simpa using h

theorem trim_trim (cs : List Char) : trim (trim cs) = trim cs := by
  have hhead : (trim cs).dropWhile isBlank = trim cs :=
    dropWhile_eq_self_of_head fun c hc => head?_dropWhile_false (head?_trimEnd hc)
  unfold trim at hhead ⊢
  rw [hhead]
  simp [trimEnd, dropWhile_dropWhile]

theorem dropWhile_eq_nil_iff_all {α : Type} {p : α → Bool} {xs : List α} :
    xs.dropWhile p = [] ↔ xs.all p = true := by
  induction xs with
  | nil => simp
  | cons x xs ih =>
    rw [List.dropWhile_cons, List.all_cons]
    by_cases h : p x
    · rw [if_pos h, h, Bool.true_and]
      exact ih
    · rw [if_neg h]
      simp [h]

theorem trim_eq_nil_iff {cs : List Char} : trim cs = [] ↔ cs.all isBlank = true := by
  unfold trim trimEnd
  rw [List.reverse_eq_nil_iff, dropWhile_eq_nil_iff_all, List.all_reverse]
  constructor
  · intro h
    have : ∀ c ∈ (cs.dropWhile isBlank).head?, False := by
      intro c hc
      have h1 := head?_dropWhile_false hc
      have h2 := List.all_eq_true.mp h c (List.mem_of_mem_head? hc)
      simp [h1] at h2
    have hnil : cs.dropWhile isBlank = [] := by
      cases hd : cs.dropWhile isBlank with
      | nil => rfl
      | cons d ds => exact absurd (this d (by simp [hd])) id
    exact dropWhile_eq_nil_iff_all.mp hnil
  · intro h
    rw [dropWhile_eq_nil_iff_all.mpr h]
    rfl

/-- Blanks removed from both ends of a text. -/
def trimText (s : String) : String :=
  String.ofList (trim s.toList)

theorem trimText_trimText (s : String) : trimText (trimText s) = trimText s := by
  simp [trimText, trim_trim]

end AffinityGate
