import AffinityGate.Proofs.Owner.Cache
import AffinityGate.Proofs.Owner.Ledger

/-!
# An owner that stays

`OwnerCache.Holds` says that a cache yields the owner of an entry for as long as the entry is fresh.
Nothing ends this but a write of another owner for the same process: reading, purging, waiting,
writes for other processes and writes of the same owner preserve it.  `OwnerCache.Becomes` lists all
that a gateway can do to its cache between two times; what it preserves is shown once, and the two
kinds of resolution are among it.
-/

namespace AffinityGate

theorem find?_filter_of_find? {α : Type} {p keep : α → Bool} {a : α} {xs : List α}
    (h : xs.find? p = some a) (hkeep : keep a = true) : (xs.filter keep).find? p = some a := by
  rw [List.find?_filter]
  obtain ⟨hp, before, after, rfl, hbefore⟩ := List.find?_eq_some_iff_append.mp h
  refine List.find?_eq_some_iff_append.mpr ⟨by simp [hp, hkeep], before, after, rfl, ?_⟩
  intro x hx
  have := hbefore x hx
  simp_all

namespace OwnerCache

variable {c c' : OwnerCache} {now : Nat} {e : CacheEntry}

theorem find?_put_self (c : OwnerCache) (now : Nat) (id : ProcessId) (owner : String) :
    (c.put now id owner).find? id = some ⟨id, owner, now⟩ := by
  simp [put, find?]

theorem find?_put_of_ne {id other : ProcessId} (h : c.find? id = some e) (hne : other ≠ id)
    (now : Nat) (owner : String) : (c.put now other owner).find? id = some e := by
  have hid : e.id = id := by simpa using List.find?_some h
  rw [find?, put, List.find?_cons_of_neg (by simpa using hne)]
  exact find?_filter_of_find? h (by simpa [hid] using Ne.symm hne)

/-- The owner of an entry is held: it was written in the past, and while it is fresh the cache has
this entry of the process, or one of the same owner that was written since. -/
structure Holds (c : OwnerCache) (now : Nat) (e : CacheEntry) : Prop where
  past : e.written ≤ now
  found : c.isFresh now e = true →
    ∃ written, e.written ≤ written ∧ c.find? e.id = some { e with written := written }

/-- Freshness depends on the time to live alone. -/
theorem isFresh_congr (h : c'.ttl = c.ttl) : c'.isFresh now e = c.isFresh now e := by
  rw [isFresh, isFresh, h]

/-- An entry is fresh if one of the same cache that was written before it is. -/
theorem isFresh_of_written_le {e' : CacheEntry} (hle : e.written ≤ e'.written)
    (h : c.isFresh now e = true) : c.isFresh now e' = true := by
  rw [isFresh_iff] at h ⊢
  have hmul : (now - e'.written) * Duration.nanosPerMilli ≤
      (now - e.written) * Duration.nanosPerMilli := Nat.mul_le_mul_right _ (by omega)
  exact Nat.lt_of_le_of_lt hmul h

/-- What is held is yielded. -/
theorem Holds.get_eq (h : c.Holds now e) (hfresh : c.isFresh now e = true) :
    (c.get now e.id).1 = some e.owner := by
  obtain ⟨written, hle, hfind⟩ := h.found hfresh
  have hfound : c.isFresh now { e with written := written } = true :=
    isFresh_of_written_le hle hfresh
  simp [get, hfind, hfound]

theorem Holds.later {later : Nat} (h : c.Holds now e) (hle : now ≤ later) : c.Holds later e where
  past := Nat.le_trans h.past hle
  found := fun hfresh => h.found (isFresh_of_later hle hfresh)

/-- An owner stays held if no fresh entry of its process is lost. -/
theorem Holds.of_kept (h : c.Holds now e) (httl : c'.ttl = c.ttl)
    (hkept : ∀ e', c.isFresh now e' = true → c.find? e.id = some e' → c'.find? e.id = some e') :
    c'.Holds now e where
  past := h.past
  found := fun hfresh => by
    rw [isFresh_congr httl] at hfresh
    obtain ⟨written, hle, hfind⟩ := h.found hfresh
    exact ⟨written, hle, hkept _ (isFresh_of_written_le hle hfresh) hfind⟩

theorem Holds.get (h : c.Holds now e) (id : ProcessId) : (c.get now id).2.Holds now e := by
  cases hget : (c.get now id).1 with
  | some owner =>
    rw [get_of_some hget]
    exact h
  | none =>
    refine h.of_kept (ttl_get c now id) fun e' hfresh hfind => ?_
    have hid : e'.id = e.id := by simpa using List.find?_some hfind
    rw [get_of_none hget]
    refine find?_filter_of_find? hfind (bne_iff_ne.mpr ?_)
    -- A fresh entry of the process would have been yielded.
    rintro rfl
    simp [OwnerCache.get, hid, hfind, hfresh] at hget

theorem Holds.purge (h : c.Holds now e) : (c.purge now).Holds now e :=
  h.of_kept (ttl_purge c now) fun _ hfresh hfind => find?_filter_of_find? hfind hfresh

/-- A write holds what it writes. -/
theorem holds_put (c : OwnerCache) (now : Nat) (id : ProcessId) (owner : String) :
    (c.put now id owner).Holds now ⟨id, owner, now⟩ where
  past := Nat.le_refl now
  found := fun _ => ⟨now, Nat.le_refl now, c.find?_put_self now id owner⟩

/-- A write for the process of a held owner that is fresh must be of this owner. -/
theorem Holds.put (h : c.Holds now e) {id : ProcessId} {owner : String}
    (hsame : id = e.id → c.isFresh now e = true → owner = e.owner) :
    (c.put now id owner).Holds now e := by
  by_cases hid : id = e.id
  · refine ⟨h.past, fun hfresh => ⟨now, h.past, ?_⟩⟩
    rw [hid, find?_put_self, hsame hid hfresh]
  · exact h.of_kept (ttl_put c now id owner) fun e' _ hfind => find?_put_of_ne hfind hid now owner

/-! ## All that can happen to a cache -/

/-- What a cache can become between two times, when at most the given owner is announced: it is left
alone, read, purged, written to after a reading that yielded nothing, or written to by the
announcement. -/
inductive Becomes (c : OwnerCache) (now later : Nat) (announced : Option (ProcessId × String)) :
    OwnerCache → Prop
  | same : Becomes c now later announced c
  | read (id : ProcessId) : Becomes c now later announced (c.get now id).2
  | purged : Becomes c now later announced (c.purge now)
  | learned {id : ProcessId} {time : Nat} (owner : String) :
    (c.get now id).1 = none → now ≤ time → time ≤ later →
    Becomes c now later announced ((c.get now id).2.put time id owner)
  | told {id : ProcessId} {owner : String} :
    announced = some (id, owner) → Becomes c now later announced (c.put now id owner)

variable {later : Nat} {announced : Option (ProcessId × String)}

theorem Becomes.ttl_eq (h : c.Becomes now later announced c') : c'.ttl = c.ttl := by
  cases h with
  | same => rfl
  | read id => exact ttl_get c now id
  | purged => rfl
  | learned owner => exact ttl_get c now _
  | told => rfl

/-- A longer time allows more. -/
theorem Becomes.mono {later' : Nat} (h : c.Becomes now later announced c') (hle : later ≤ later') :
    c.Becomes now later' announced c' := by
  cases h with
  | same => exact .same
  | read id => exact .read id
  | purged => exact .purged
  | learned owner hget hafter hbefore => exact .learned owner hget hafter (Nat.le_trans hbefore hle)
  | told heq => exact .told heq

/-- A held owner stays held unless another one is announced for its process. -/
theorem Becomes.holds (h : c.Becomes now later announced c') (hle : now ≤ later)
    (hc : c.Holds now e) (hsame : ∀ owner, announced = some (e.id, owner) → owner = e.owner) :
    c'.Holds later e := by
  cases h with
  | same => exact hc.later hle
  | read id => exact (hc.get id).later hle
  | purged => exact hc.purge.later hle
  | @learned id time owner hget hafter hbefore =>
    refine (((hc.get id).later hafter).put fun hid hfresh => ?_).later hbefore
    -- Had the owner still been fresh, it would have been yielded.
    rw [isFresh_congr (ttl_get c now id)] at hfresh
    rw [hid, hc.get_eq (isFresh_of_later hafter hfresh)] at hget
    cases hget
  | told heq => exact (hc.put fun hid _ => hsame _ (hid ▸ heq)).later hle

/-- No entry was written in the future. -/
def InPast (c : OwnerCache) (now : Nat) : Prop :=
  ∀ e ∈ c.entries, e.written ≤ now

theorem InPast.wait (h : c.InPast now) (hle : now ≤ later) : c.InPast later :=
  fun e he => Nat.le_trans (h e he) hle

theorem InPast.filter (h : c.InPast now) (keep : CacheEntry → Bool) :
    InPast { c with entries := c.entries.filter keep } now :=
  fun e he => h e (List.mem_filter.mp he).1

theorem InPast.get (h : c.InPast now) (id : ProcessId) : (c.get now id).2.InPast now := by
  obtain ⟨keep, hkeep⟩ := c.exists_get_eq_filter now id
  rw [hkeep]
  exact h.filter keep

theorem InPast.put {time : Nat} (h : c.InPast now) (hle : now ≤ time) (id : ProcessId)
    (owner : String) : (c.put time id owner).InPast time := by
  intro e he
  rcases mem_put.mp he with rfl | ⟨hmem, -⟩
  · exact Nat.le_refl time
  · exact Nat.le_trans (h e hmem) hle

theorem Becomes.inPast (h : c.Becomes now later announced c') (hle : now ≤ later)
    (hc : c.InPast now) : c'.InPast later := by
  cases h with
  | same => exact hc.wait hle
  | read id => exact (hc.get id).wait hle
  | purged => exact (hc.filter _).wait hle
  | @learned id time owner _ hafter hbefore => exact ((hc.get id).put hafter id owner).wait hbefore
  | @told id owner heq => exact (hc.put (Nat.le_refl now) id owner).wait hle

/-- The owner of an entry that is found is held. -/
theorem holds_of_find? (hc : c.InPast now) (h : c.find? e.id = some e) : c.Holds now e where
  past := hc e (List.mem_of_find?_eq_some h)
  found := fun _ => ⟨e.written, Nat.le_refl _, h⟩

end OwnerCache

namespace OwnerStore

/-- Drops all entries that are not fresh, if there are entries. -/
def purge (s : OwnerStore) (now : Nat) : OwnerStore :=
  match s with
  | .forgetful => .forgetful
  | .timed c => .timed (c.purge now)

/-- The entry of a process, if there are entries. -/
def find? (s : OwnerStore) (id : ProcessId) : Option CacheEntry :=
  match s with
  | .forgetful => none
  | .timed c => c.find? id

end OwnerStore

/-! ## Resolutions -/

namespace Resolver

variable {σ : Type} {r : Resolver} {p : OwnerPolicy}

theorem resolve_becomes (out : Outside σ) (now : Nat) (c : OwnerCache) (id : ProcessId) (w : σ)
    (hp : r.policy = some p) :
    let a := r.resolve out now (.timed c) id w
    ∃ c', a.store = .timed c' ∧ c.Becomes now (now + a.elapsed) none c' := by
  intro a
  cases hget : (c.get now id).1 with
  | some owner =>
    obtain ⟨-, hstore, -⟩ := resolve_of_kept out w hp hget
    exact ⟨c, hstore, .same⟩
  | none =>
    obtain ⟨hruling, hstore, -⟩ := resolve_of_not_kept out w hp hget
    have helapsed : a.elapsed = OwnerLedger.waited r.limit.roundedUp (out.owner id w).1 :=
      congrArg Ruling.elapsed hruling
    refine ⟨_, hstore, ?_⟩
    split
    · exact .learned _ hget (Nat.le_add_right _ _) (Nat.le_of_eq (by rw [helapsed]))
    · exact .read id

theorem resolveWithOwner_becomes (now : Nat) (c : OwnerCache) (id : ProcessId) (owner : String)
    (w : σ) (hp : r.policy = some p) :
    let a := r.resolveWithOwner now (.timed c) id owner w
    ∃ c', a.store = .timed c' ∧ c.Becomes now (now + a.elapsed) (some (id, owner)) c' := by
  obtain ⟨-, hstore, -⟩ := resolveWithOwner_of_policy hp now c id owner w
  exact ⟨c.put now id owner, hstore, .told rfl⟩

end Resolver
end AffinityGate
