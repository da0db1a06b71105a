import AffinityGate.Http.Token

/-!
# Header lists

A header list keeps its lines in order.  What can be observed of it is, for each name, the list of
its values in order: `values` is that view, and each operation has one lemma about it.
-/

namespace AffinityGate.Http

/-- Header lines in order. -/
abbrev Headers := List (HeaderName × Bytes)

namespace Headers

/-- The values of one name, in order. -/
def values (hs : Headers) (n : HeaderName) : List Bytes :=
  (hs.filter (·.1 == n)).map (·.2)

/-- The first value of a name. -/
def get? (hs : Headers) (n : HeaderName) : Option Bytes :=
  (hs.values n).head?

/-- Whether a name occurs. -/
def has (hs : Headers) (n : HeaderName) : Bool :=
  hs.any (·.1 == n)

/-- Drops every line of a name. -/
def erase (hs : Headers) (n : HeaderName) : Headers :=
  hs.filter (·.1 != n)

/-- One line for a name, in place of all it had. -/
def put (hs : Headers) (n : HeaderName) (v : Bytes) : Headers :=
  hs.erase n ++ [(n, v)]

/-- One line for a name that has none. -/
def putIfAbsent (hs : Headers) (n : HeaderName) (v : Bytes) : Headers :=
  if hs.has n then hs else hs.put n v

/-- The lines sorted by name; lines of one name stay in order. -/
def sorted (hs : Headers) : Headers :=
  hs.mergeSort fun a b => decide (a.1.text ≤ b.1.text)

theorem mem_values_iff {hs : Headers} {n : HeaderName} {v : Bytes} :
    v ∈ hs.values n ↔ (n, v) ∈ hs := by
  simp only [values, List.mem_map, List.mem_filter, beq_iff_eq]
  constructor
  · rintro ⟨⟨_, _⟩, ⟨hmem, rfl⟩, rfl⟩
    exact hmem
  · exact fun hmem => ⟨_, ⟨hmem, rfl⟩, rfl⟩

theorem values_append (hs ks : Headers) (n : HeaderName) :
    Headers.values (hs ++ ks) n = hs.values n ++ ks.values n := by
  simp [values]

theorem values_erase_self (hs : Headers) (n : HeaderName) : (hs.erase n).values n = [] := by
  simp [values, erase, List.filter_filter]

theorem values_erase_of_ne (hs : Headers) {n m : HeaderName} (h : m ≠ n) :
    (hs.erase n).values m = hs.values m := by
  simp only [values, erase, List.filter_filter]
  congr 1
  apply List.filter_congr
  intro x _
  by_cases hx : x.1 = m <;> simp [hx, h]

theorem values_put_self (hs : Headers) (n : HeaderName) (v : Bytes) :
    (hs.put n v).values n = [v] := by
  simp [put, values_append, values_erase_self]
  simp [values]

theorem values_put_of_ne (hs : Headers) {n m : HeaderName} (v : Bytes) (h : m ≠ n) :
    (hs.put n v).values m = hs.values m := by
  have : ¬n = m := fun e => h e.symm
  simp [put, values_append, values_erase_of_ne hs h]
  simp [values, this]

theorem has_eq_false_iff (hs : Headers) (n : HeaderName) :
    hs.has n = false ↔ hs.values n = [] := by
  simp [has, values]

theorem values_filter (hs : Headers) (p : HeaderName → Bool) (n : HeaderName) :
    Headers.values (hs.filter fun h => p h.1) n = if p n then hs.values n else [] := by
  unfold values
  rw [List.filter_filter]
  split
  · rename_i hkeep
    congr 1
    refine List.filter_congr fun h _ => ?_
    by_cases hn : h.1 = n
    · simp [hn, hkeep]
    · simp [hn]
  · rename_i hdrop
    rw [List.map_eq_nil_iff, List.filter_eq_nil_iff]
    rintro h -
    by_cases hn : h.1 = n
    · simp [hn, hdrop]
    · simp [hn]

theorem values_putIfAbsent (hs : Headers) (n m : HeaderName) (v : Bytes) :
    (hs.putIfAbsent n v).values m = if m = n ∧ hs.values n = [] then [v] else hs.values m := by
  unfold putIfAbsent
  by_cases hhas : hs.has n = true
  · have hne : hs.values n ≠ [] := fun h => by
      rw [(has_eq_false_iff hs n).mpr h] at hhas
      cases hhas
    rw [if_pos hhas, if_neg fun h => hne h.2]
  · have hnone : hs.values n = [] := (has_eq_false_iff hs n).mp (Bool.eq_false_iff.mpr hhas)
    rw [if_neg hhas]
    by_cases hm : m = n
    · rw [hm, values_put_self, if_pos ⟨rfl, hnone⟩]
    · rw [values_put_of_ne _ _ hm, if_neg fun h => hm h.1]

/-! ## Lists without the lines of a name -/

variable {n m : HeaderName}

theorem erase_comm (hs : Headers) (n m : HeaderName) :
    (hs.erase n).erase m = (hs.erase m).erase n := by
  simp only [erase, List.filter_filter, Bool.and_comm]

theorem put_erase (h : n ≠ m) (hs : Headers) (v : Bytes) :
    (hs.erase m).put n v = (hs.put n v).erase m := by
  have hkept : erase [(n, v)] m = [(n, v)] := by simp [erase, h]
  calc (hs.erase m).put n v
    _ = (hs.erase n).erase m ++ [(n, v)] := by rw [put, erase_comm]
    _ = (hs.erase n).erase m ++ erase [(n, v)] m := by rw [hkept]
    _ = (hs.put n v).erase m := (List.filter_append _ _).symm

theorem has_erase_of_ne (h : n ≠ m) (hs : Headers) : (hs.erase m).has n = hs.has n := by
  rw [Bool.eq_iff_iff, ← Bool.not_eq_false, ← Bool.not_eq_false, has_eq_false_iff,
    has_eq_false_iff, values_erase_of_ne _ h]

theorem putIfAbsent_erase (h : n ≠ m) (hs : Headers) (v : Bytes) :
    (hs.erase m).putIfAbsent n v = (hs.putIfAbsent n v).erase m := by
  unfold putIfAbsent
  rw [has_erase_of_ne h]
  split
  · rfl
  · exact put_erase h hs v

end Headers
end AffinityGate.Http
