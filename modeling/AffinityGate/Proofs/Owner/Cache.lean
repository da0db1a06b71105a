import AffinityGate.Routing.OwnerCache

/-!
# The owner cache against all writes ever made

A cache forgets: it overwrites, and it drops an entry that it meets too late.  `OwnerCache.Keeps`
says in which sense nothing is lost by that, and each operation of the cache is shown to preserve
it.
-/

namespace AffinityGate

/-- The latest write for a process, in a list of writes that has the latest first. -/
def latestWrite? (writes : List CacheEntry) (id : ProcessId) : Option CacheEntry :=
  writes.find? fun e => e.id == id

theorem id_of_latestWrite? {writes : List CacheEntry} {id : ProcessId} {e : CacheEntry}
    (h : latestWrite? writes id = some e) : e.id = id := by
  have := List.find?_some h
  simpa using this

theorem latestWrite?_cons (e : CacheEntry) (writes : List CacheEntry) (id : ProcessId) :
    latestWrite? (e :: writes) id = if e.id = id then some e else latestWrite? writes id := by
  unfold latestWrite?
  by_cases h : e.id = id
  · rw [List.find?_cons_of_pos (by simpa using h), if_pos h]
  · rw [List.find?_cons_of_neg (by simpa using h), if_neg h]

namespace OwnerCache

variable {c : OwnerCache} {now : Nat} {writes : List CacheEntry}

theorem isFresh_iff (c : OwnerCache) (now : Nat) (e : CacheEntry) :
    c.isFresh now e = true ↔ (Duration.ofMillis (now - e.written)).nanos < c.ttl.nanos := by
  simp [isFresh]

/-- An entry that is fresh later on is fresh now. -/
theorem isFresh_of_later {later : Nat} (hle : now ≤ later) {e : CacheEntry}
    (h : c.isFresh later e = true) : c.isFresh now e = true := by
  rw [isFresh_iff] at h ⊢
  have hmul : (now - e.written) * Duration.nanosPerMilli ≤
      (later - e.written) * Duration.nanosPerMilli := Nat.mul_le_mul_right _ (by omega)
  exact Nat.lt_of_le_of_lt hmul h

/-! ## What the operations do to the entries -/

@[simp] theorem ttl_get (c : OwnerCache) (now : Nat) (id : ProcessId) :
    (c.get now id).2.ttl = c.ttl := by
  unfold get
  split
  · rfl
  · split <;> rfl

@[simp] theorem ttl_put (c : OwnerCache) (now : Nat) (id : ProcessId) (owner : String) :
    (c.put now id owner).ttl = c.ttl := rfl

@[simp] theorem ttl_purge (c : OwnerCache) (now : Nat) : (c.purge now).ttl = c.ttl := rfl

theorem mem_put {id : ProcessId} {owner : String} {e : CacheEntry} :
    e ∈ (c.put now id owner).entries ↔ e = ⟨id, owner, now⟩ ∨ e ∈ c.entries ∧ e.id ≠ id := by
  simp [put]

/-- A cache that yields no owner for a process keeps no entry of it, and every other entry. -/
theorem get_of_none {id : ProcessId} (h : (c.get now id).1 = none) :
    (c.get now id).2 = { c with entries := c.entries.filter (·.id != id) } := by
  unfold get at h ⊢
  split
  · rename_i hnone
    have hall : c.entries.filter (·.id != id) = c.entries := by
      refine List.filter_eq_self.mpr fun e he => ?_
      have := List.find?_eq_none.mp hnone e he
      simpa using this
    rw [hall]
  · rename_i e he
    rw [he] at h
    split
    · rename_i hfresh
      simp [hfresh] at h
    · rfl

/-- A cache that yields an owner is left as it is. -/
theorem get_of_some {id : ProcessId} {owner : String} (h : (c.get now id).1 = some owner) :
    (c.get now id).2 = c := by
  unfold get at h ⊢
  split
  · rfl
  · rename_i e he
    rw [he] at h
    split
    · rfl
    · rename_i hstale
      simp [hstale] at h

/-- A reading drops entries at most. -/
theorem exists_get_eq_filter (c : OwnerCache) (now : Nat) (id : ProcessId) :
    ∃ keep : CacheEntry → Bool,
      (c.get now id).2 = { c with entries := c.entries.filter keep } := by
  cases hget : (c.get now id).1 with
  | some owner =>
    refine ⟨fun _ => true, ?_⟩
    rw [get_of_some hget, List.filter_eq_self.mpr fun _ _ => rfl]
  | none => exact ⟨(·.id != id), get_of_none hget⟩

theorem mem_purge {e : CacheEntry} :
    e ∈ (c.purge now).entries ↔ e ∈ c.entries ∧ c.isFresh now e = true := by
  simp [purge]

/-- What a purge counts is what the cache loses by it. -/
theorem size_purge_add_stale (c : OwnerCache) (now : Nat) :
    (c.purge now).size + c.stale now = c.size := by
  have hsplit := List.length_eq_countP_add_countP (c.isFresh now) (l := c.entries)
  rw [size, size, stale, purge, ← List.countP_eq_length_filter, hsplit]
  simp

/-- A cache has at most one entry for each process. -/
def HasDistinctIds (c : OwnerCache) : Prop :=
  (c.entries.map (·.id)).Nodup

/-- Dropping entries does not make two of one process. -/
theorem HasDistinctIds.filter (h : c.HasDistinctIds) (p : CacheEntry → Bool) :
    HasDistinctIds { c with entries := c.entries.filter p } :=
  h.sublist (List.filter_sublist.map CacheEntry.id)

theorem HasDistinctIds.get (h : c.HasDistinctIds) (now : Nat) (id : ProcessId) :
    (c.get now id).2.HasDistinctIds := by
  obtain ⟨keep, hkeep⟩ := c.exists_get_eq_filter now id
  rw [hkeep]
  exact h.filter keep

theorem HasDistinctIds.put (h : c.HasDistinctIds) (now : Nat) (id : ProcessId) (owner : String) :
    (c.put now id owner).HasDistinctIds := by
  refine List.nodup_cons.mpr ⟨fun hmem => ?_, h.filter _⟩
  obtain ⟨e, he, hid⟩ := List.mem_map.mp hmem
  have hne := (List.mem_filter.mp he).2
  simp [hid] at hne

theorem HasDistinctIds.purge (h : c.HasDistinctIds) (now : Nat) : (c.purge now).HasDistinctIds :=
  h.filter _

/-! ## Nothing current is lost -/

/-- A cache keeps what is current among the writes: each entry is the latest write for its process,
and each latest write that is fresh is an entry. -/
structure Keeps (c : OwnerCache) (now : Nat) (writes : List CacheEntry) : Prop where
  sound : ∀ e ∈ c.entries, latestWrite? writes e.id = some e
  complete : ∀ e, latestWrite? writes e.id = some e → c.isFresh now e = true → e ∈ c.entries

theorem keeps_empty (ttl : Duration) (now : Nat) : (empty ttl).Keeps now [] where
  sound := by simp [empty]
  complete := by simp [latestWrite?]

/-- Time may pass. -/
theorem Keeps.later {later : Nat} (h : c.Keeps now writes) (hle : now ≤ later) :
    c.Keeps later writes where
  sound := h.sound
  complete := fun e he hfresh => h.complete e he (isFresh_of_later hle hfresh)

/-- An owner that is yielded is that of the latest write, and is yielded as long as that write is
fresh. -/
theorem Keeps.get_eq (h : c.Keeps now writes) (id : ProcessId) :
    (c.get now id).1 = ((latestWrite? writes id).filter (c.isFresh now)).map (·.owner) := by
  unfold get
  split
  · rename_i hnone
    cases hl : latestWrite? writes id with
    | none => rfl
    | some e =>
      have hid := id_of_latestWrite? hl
      by_cases hfresh : c.isFresh now e = true
      · have hmem := h.complete e (hid ▸ hl) hfresh
        exact absurd (beq_iff_eq.mpr hid) (List.find?_eq_none.mp hnone e hmem)
      · rw [Option.filter_some_neg (by simpa using hfresh)]
        rfl
  · rename_i e he
    have hl := h.sound e (List.mem_of_find?_eq_some he)
    have hid : e.id = id := by simpa using List.find?_some he
    rw [hid] at hl
    rw [hl]
    by_cases hfresh : c.isFresh now e = true
    · rw [if_pos hfresh, Option.filter_some_pos hfresh]
      rfl
    · rw [if_neg hfresh, Option.filter_some_neg (by simpa using hfresh)]
      rfl

theorem Keeps.get (h : c.Keeps now writes) (id : ProcessId) :
    (c.get now id).2.Keeps now writes := by
  cases hget : (c.get now id).1 with
  | some owner =>
    rw [get_of_some hget]
    exact h
  | none =>
    have hentries := congrArg entries (get_of_none hget)
    refine ⟨fun e he => ?_, fun e he hfresh => ?_⟩
    · rw [hentries] at he
      exact h.sound e (List.mem_filter.mp he).1
    · have hfresh' : c.isFresh now e = true := by
        rw [isFresh_iff, ttl_get] at hfresh
        exact (isFresh_iff c now e).mpr hfresh
      rw [hentries]
      refine List.mem_filter.mpr ⟨h.complete e he hfresh', ?_⟩
      -- A fresh latest write would have been yielded.
      rw [bne_iff_ne]
      rintro rfl
      rw [h.get_eq, he] at hget
      simp [hfresh'] at hget

theorem Keeps.put (h : c.Keeps now writes) (id : ProcessId) (owner : String) :
    (c.put now id owner).Keeps now (⟨id, owner, now⟩ :: writes) := by
  refine ⟨fun e he => ?_, fun e he hfresh => ?_⟩
  · rw [latestWrite?_cons]
    rcases mem_put.mp he with rfl | ⟨hmem, hne⟩
    · simp
    · rw [if_neg (Ne.symm hne)]
      exact h.sound e hmem
  · rw [mem_put]
    rw [latestWrite?_cons] at he
    split at he
    · cases he
      exact Or.inl rfl
    · rename_i hne
      exact Or.inr ⟨h.complete e he hfresh, Ne.symm hne⟩

theorem Keeps.purge (h : c.Keeps now writes) : (c.purge now).Keeps now writes where
  sound := fun e he => h.sound e (mem_purge.mp he).1
  complete := fun e he hfresh => mem_purge.mpr ⟨h.complete e he hfresh, hfresh⟩

end OwnerCache
end AffinityGate
