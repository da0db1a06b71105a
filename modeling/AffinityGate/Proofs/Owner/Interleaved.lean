import Mathlib.Data.List.Nodup
import AffinityGate.Proofs.Owner.Kept
import AffinityGate.Routing.CacheRace

/-!
# The owner cache under concurrent use

Between the look of a `get` at a stale copy and its removal another call may have refreshed the
entry.  `fresh_survives_interleaving` says that nothing is lost by that: whatever the order of the
steps of any calls, and however the clock moves between them, an entry that is fresh stays until it
is no longer fresh or until a `put` of its process writes another in its place, and a `get` answers
with nothing or with an owner that a `put` has written for its process.  `get_alone`, `put_alone`
and `purge_alone` say that a call that is not interrupted does what the operation of the cache does.
-/

namespace AffinityGate

namespace OwnerCache

variable {c : OwnerCache} {now time : Nat} {id id' : ProcessId} {owner : String} {e : CacheEntry}

@[simp] theorem ttl_removeStale (c : OwnerCache) (now : Nat) (id : ProcessId) :
    (c.removeStale now id).ttl = c.ttl := rfl

@[simp] theorem isFresh_removeStale (c : OwnerCache) (now : Nat) (id : ProcessId) :
    (c.removeStale now id).isFresh = c.isFresh :=
  funext fun _ => funext fun _ => isFresh_congr rfl

theorem find?_removeStale_of_isFresh (h : c.find? id = some e) (hfresh : c.isFresh now e = true)
    (id' : ProcessId) : (c.removeStale now id').find? id = some e :=
  find?_filter_of_find? h (by rw [hfresh, Bool.or_true])

/-- The stale entry that is found is all that there is of its process. -/
theorem removeStale_of_stale (hids : c.HasDistinctIds) (h : c.find? id = some e)
    (hstale : c.isFresh now e = false) :
    c.removeStale now id = { c with entries := c.entries.filter (·.id != id) } := by
  have hid : e.id = id := by simpa using List.find?_some h
  refine congrArg (OwnerCache.mk c.ttl) (List.filter_congr fun x hx => ?_)
  by_cases hx' : x.id = id
  · have heq := List.inj_on_of_nodup_map hids hx (List.mem_of_find?_eq_some h) (hx'.trans hid.symm)
    rw [heq, hstale, Bool.or_false]
  · simp [hx']

theorem size_removeStale_add_staleOf (c : OwnerCache) (now : Nat) (id : ProcessId) :
    (c.removeStale now id).size + c.staleOf now id = c.size := by
  have hsplit := List.length_eq_countP_add_countP
    (fun e : CacheEntry => e.id != id || c.isFresh now e) (l := c.entries)
  rw [size, size, staleOf, removeStale, ← List.countP_eq_length_filter, hsplit]
  refine congrArg _ (List.countP_congr fun e _ => ?_)
  simp

/-- What is left when stale entries of further processes are dropped too. -/
theorem filter_removeStale (c : OwnerCache) (now : Nat) (id : ProcessId) (ids : List ProcessId) :
    ((c.removeStale now id).entries.filter fun e => !ids.contains e.id || c.isFresh now e) =
      c.entries.filter fun e => !(id :: ids).contains e.id || c.isFresh now e := by
  rw [removeStale, List.filter_filter]
  refine List.filter_congr fun e _ => ?_
  rw [← Bool.or_and_distrib_right, Bool.and_comm, List.contains_cons, Bool.not_or, bne]

theorem HasDistinctIds.removeStale (h : c.HasDistinctIds) (now : Nat) (id : ProcessId) :
    (c.removeStale now id).HasDistinctIds :=
  h.filter _

end OwnerCache

/-- What is not at a position stays when the position is overwritten. -/
theorem mem_set_of_getElem?_ne {α : Type} {xs : List α} {a : α} {i : Nat} (h : a ∈ xs)
    (hne : xs[i]? ≠ some a) (b : α) : a ∈ xs.set i b := by
  obtain ⟨j, hj⟩ := List.mem_iff_getElem?.mp h
  have hij : i ≠ j := fun hij => hne (hij ▸ hj)
  exact List.mem_iff_getElem?.mpr ⟨j, by rw [List.getElem?_set_ne hij, hj]⟩

namespace CacheRace

variable {s : CacheRace} {id : ProcessId} {owner : String} {time i : Nat} {e : CacheEntry}

/-- An empty cache without calls. -/
def start (ttl : Duration) (now : Nat) : CacheRace :=
  ⟨now, .empty ttl, []⟩

/-- A move writes an owner for a process: it is the second step of a `put`. -/
def Writes (s : CacheRace) (move : Move) (id : ProcessId) : Prop :=
  ∃ i owner time, move = .advance i ∧ s.calls[i]? = some (.putStamped id owner time)

/-- One of some moves writes an owner for a process. -/
def WritesAmong (s : CacheRace) (moves : List Move) (id : ProcessId) : Prop :=
  ∃ before move after, moves = before ++ move :: after ∧ (s.run before).Writes move id

theorem run_nil (s : CacheRace) : s.run [] = s := rfl

theorem run_cons (s : CacheRace) (move : Move) (moves : List Move) :
    s.run (move :: moves) = (s.step move).run moves := rfl

theorem run_append (s : CacheRace) (moves more : List Move) :
    s.run (moves ++ more) = (s.run moves).run more :=
  List.foldl_append

theorem run_concat (s : CacheRace) (moves : List Move) (move : Move) :
    s.run (moves ++ [move]) = (s.run moves).step move :=
  s.run_append moves [move]

/-! ## One move -/

/-- All that a step of a call does to the cache: nothing, or it writes what a `put` has stamped, or
it removes the entry of one process if that is stale now. -/
theorem cache_stepCall (now : Nat) (c : OwnerCache) (call : CacheCall) :
    (stepCall now c call).1 = c ∨
    (∃ id owner time, call = .putStamped id owner time ∧
      (stepCall now c call).1 = c.put time id owner) ∨
    ∃ id, (stepCall now c call).1 = c.removeStale now id := by
  cases call with
  | get id =>
    simp only [stepCall]
    split <;> exact Or.inl rfl
  | getRead id copy =>
    simp only [stepCall, apply_ite Prod.fst, ite_self, true_or]
  | getStale id => exact Or.inr (Or.inr ⟨id, rfl⟩)
  | putStamped id owner time => exact Or.inr (Or.inl ⟨id, owner, time, rfl, rfl⟩)
  | purging due removed => cases due <;> exact Or.inl rfl
  | _ => exact Or.inl rfl

/-- All that a move does to the cache: what a step of a call does, or what a purge does that meets
an entry. -/
theorem cache_step (s : CacheRace) (move : Move) :
    (s.step move).cache = s.cache ∨
    (∃ i id owner time, move = .advance i ∧ s.calls[i]? = some (.putStamped id owner time) ∧
      (s.step move).cache = s.cache.put time id owner) ∨
    ∃ id, (s.step move).cache = s.cache.removeStale s.now id := by
  cases move with
  | begin call =>
    simp only [step]
    split <;> exact Or.inl rfl
  | advance i =>
    simp only [step]
    cases hcall : s.calls[i]? with
    | none => exact Or.inl rfl
    | some call =>
      rcases cache_stepCall s.now s.cache call with
        hsame | ⟨id, owner, time, rfl, hput⟩ | ⟨id, hremove⟩
      · exact Or.inl hsame
      · exact Or.inr (Or.inl ⟨i, id, owner, time, rfl, hcall, hput⟩)
      · exact Or.inr (Or.inr ⟨id, hremove⟩)
  | visit i id =>
    simp only [step]
    split
    · exact Or.inr (Or.inr ⟨id, rfl⟩)
    · exact Or.inl rfl
  | tick millis => exact Or.inl rfl

theorem ttl_step (s : CacheRace) (move : Move) : (s.step move).cache.ttl = s.cache.ttl := by
  rcases s.cache_step move with h | ⟨i, id, owner, time, -, -, h⟩ | ⟨id, h⟩ <;> rw [h]
  · exact OwnerCache.ttl_put ..
  · exact OwnerCache.ttl_removeStale ..

/-- The clock does not run backwards. -/
theorem now_le_step (s : CacheRace) (move : Move) : s.now ≤ (s.step move).now := by
  cases move with
  | begin call =>
    simp only [step]
    split <;> exact Nat.le_refl _
  | advance i =>
    simp only [step]
    split <;> exact Nat.le_refl _
  | visit i id =>
    simp only [step]
    split <;> exact Nat.le_refl _
  | tick millis => exact Nat.le_add_right _ _

/-- **One move.**  A fresh entry stays, unless a `put` writes another in its place. -/
theorem find?_step (h : s.cache.find? id = some e) (hfresh : s.cache.isFresh s.now e = true)
    (move : Move) : (s.step move).cache.find? id = some e ∨ s.Writes move id := by
  rcases s.cache_step move with hcache | ⟨i, id', owner, time, hmove, hcall, hcache⟩ | ⟨id', hcache⟩
  · exact Or.inl (hcache ▸ h)
  · by_cases hid : id' = id
    · exact Or.inr ⟨i, owner, time, hmove, hid ▸ hcall⟩
    · exact Or.inl (hcache ▸ OwnerCache.find?_put_of_ne h hid time owner)
  · exact Or.inl (hcache ▸ OwnerCache.find?_removeStale_of_isFresh h hfresh id')

theorem distinct_step (h : s.cache.HasDistinctIds) (move : Move) :
    (s.step move).cache.HasDistinctIds := by
  rcases s.cache_step move with hcache | ⟨i, id, owner, time, -, -, hcache⟩ | ⟨id, hcache⟩ <;>
    rw [hcache]
  · exact h
  · exact h.put time id owner
  · exact h.removeStale s.now id

/-! ## Runs -/

theorem ttl_run (s : CacheRace) (moves : List Move) : (s.run moves).cache.ttl = s.cache.ttl := by
  induction moves generalizing s with
  | nil => rfl
  | cons move moves ih => exact (ih (s.step move)).trans (s.ttl_step move)

theorem now_le_run (s : CacheRace) (moves : List Move) : s.now ≤ (s.run moves).now := by
  induction moves generalizing s with
  | nil => exact Nat.le_refl _
  | cons move moves ih => exact Nat.le_trans (s.now_le_step move) (ih (s.step move))

theorem distinct_run (h : s.cache.HasDistinctIds) (moves : List Move) :
    (s.run moves).cache.HasDistinctIds := by
  induction moves generalizing s with
  | nil => exact h
  | cons move moves ih => exact ih (distinct_step h move)

/-- What is fresh after a run was fresh all along. -/
theorem isFresh_of_run {moves : List Move}
    (h : (s.run moves).cache.isFresh (s.run moves).now e = true) :
    s.cache.isFresh s.now e = true := by
  rw [OwnerCache.isFresh_congr (s.ttl_run moves)] at h
  exact OwnerCache.isFresh_of_later (s.now_le_run moves) h

/-- **A run.**  An entry that is fresh at the end is still there, unless a `put` of its process has
written since. -/
theorem find?_run (h : s.cache.find? id = some e) {moves : List Move}
    (hfresh : (s.run moves).cache.isFresh (s.run moves).now e = true) :
    (s.run moves).cache.find? id = some e ∨ s.WritesAmong moves id := by
  induction moves generalizing s with
  | nil => exact Or.inl h
  | cons move moves ih =>
    rcases find?_step h (isFresh_of_run hfresh) move with hstays | hwrites
    · rcases ih hstays hfresh with hfound | ⟨before, later, after, rfl, hwrites⟩
      · exact Or.inl hfound
      · exact Or.inr ⟨move :: before, later, after, rfl, hwrites⟩
    · exact Or.inr ⟨[], move, moves, rfl, hwrites⟩

/-! ## Where owners come from -/

/-- All owners in sight were written: those in the cache, in the copies that calls have, and in
their answers. -/
structure Sourced (s : CacheRace) : Prop where
  entries : ∀ e ∈ s.cache.entries, .putDone e.id e.owner ∈ s.calls
  copies : ∀ id copy, .getRead id copy ∈ s.calls → .putDone id copy.owner ∈ s.calls
  answers : ∀ id owner, .got id (some owner) ∈ s.calls → .putDone id owner ∈ s.calls

/-- A `put` that is done stays done. -/
theorem putDone_step (h : .putDone id owner ∈ s.calls) (move : Move) :
    .putDone id owner ∈ (s.step move).calls := by
  cases move with
  | begin call =>
    simp only [step]
    split
    · exact List.mem_append_left _ h
    · exact h
  | advance i =>
    simp only [step]
    cases hcall : s.calls[i]? with
    | none => exact h
    | some call =>
      by_cases hdone : call = .putDone id owner
      · subst hdone
        exact List.mem_set (List.getElem?_eq_some_iff.mp hcall).1 _
      · exact mem_set_of_getElem?_ne h (by rwa [hcall, ne_eq, Option.some.injEq]) _
  | visit i id =>
    simp only [step]
    split
    · rename_i due removed hcall
      exact mem_set_of_getElem?_ne h (by simp [hcall]) _
    · exact h
  | tick millis => exact h

/-- A call that has not just begun, and is no purge under way, stands after a move where it stood
before it, or where the next step of a call leads. -/
theorem mem_calls_step {call : CacheCall} {move : Move} (h : call ∈ (s.step move).calls)
    (hbegun : isBeginning call = false) (hpurging : ∀ due removed, call ≠ .purging due removed) :
    call ∈ s.calls ∨ ∃ before ∈ s.calls, (stepCall s.now s.cache before).2 = call := by
  cases move with
  | begin first =>
    simp only [step] at h
    split at h
    · rename_i hfirst
      rcases List.mem_append.mp h with hold | hnew
      · exact Or.inl hold
      · rw [List.mem_singleton.mp hnew, hfirst] at hbegun
        cases hbegun
    · exact Or.inl h
  | advance i =>
    simp only [step] at h
    cases hcall : s.calls[i]? with
    | none =>
      rw [hcall] at h
      exact Or.inl h
    | some before =>
      rw [hcall] at h
      rcases List.mem_or_eq_of_mem_set h with hold | hnew
      · exact Or.inl hold
      · exact Or.inr ⟨before, List.mem_of_getElem? hcall, hnew.symm⟩
  | visit i id =>
    simp only [step] at h
    split at h
    · rcases List.mem_or_eq_of_mem_set h with hold | hnew
      · exact Or.inl hold
      · exact absurd hnew (hpurging _ _)
    · exact Or.inl h
  | tick millis => exact Or.inl h

/-- Only a `get` that finds an entry has a copy, and the copy is of that entry. -/
theorem find?_of_stepCall_eq_getRead {now : Nat} {c : OwnerCache} {call : CacheCall}
    (h : (stepCall now c call).2 = .getRead id e) : c.find? id = some e := by
  cases call with
  | get id =>
    simp only [stepCall] at h
    split at h
    · cases h
    · rename_i hfind
      cases h
      exact hfind
  | getRead id copy =>
    simp only [stepCall] at h
    split at h <;> cases h
  | purging due removed => cases due <;> cases h
  | _ => cases h

/-- Only the owner of the copy is an answer. -/
theorem copy_of_stepCall_eq_got {now : Nat} {c : OwnerCache} {call : CacheCall}
    (h : (stepCall now c call).2 = .got id (some owner)) :
    call = .got id (some owner) ∨ ∃ copy, call = .getRead id copy ∧ copy.owner = owner := by
  cases call with
  | get id =>
    simp only [stepCall] at h
    split at h <;> cases h
  | getRead id copy =>
    simp only [stepCall] at h
    split at h
    · cases h
      exact Or.inr ⟨copy, rfl, rfl⟩
    · cases h
  | got id owner => exact Or.inl h
  | purging due removed => cases due <;> cases h
  | _ => cases h

theorem Sourced.step (h : s.Sourced) (move : Move) : (s.step move).Sourced where
  entries := fun e he => by
    rcases s.cache_step move with hcache | ⟨i, id, owner, time, rfl, hcall, hcache⟩ | ⟨id, hcache⟩
    · exact putDone_step (h.entries e (hcache ▸ he)) move
    · rw [hcache] at he
      rcases OwnerCache.mem_put.mp he with rfl | ⟨hold, -⟩
      · simp only [CacheRace.step, hcall]
        exact List.mem_set (List.getElem?_eq_some_iff.mp hcall).1 _
      · exact putDone_step (h.entries e hold) _
    · rw [hcache] at he
      exact putDone_step (h.entries e (OwnerCache.mem_removeStale.mp he).1) move
  copies := fun id copy hmem => by
    rcases mem_calls_step hmem rfl nofun with hold | ⟨before, hbefore, heq⟩
    · exact putDone_step (h.copies id copy hold) move
    · have hfind := find?_of_stepCall_eq_getRead heq
      have hid : copy.id = id := by simpa using List.find?_some hfind
      exact putDone_step (hid ▸ h.entries copy (List.mem_of_find?_eq_some hfind)) move
  answers := fun id owner hmem => by
    rcases mem_calls_step hmem rfl nofun with hold | ⟨before, hbefore, heq⟩
    · exact putDone_step (h.answers id owner hold) move
    · rcases copy_of_stepCall_eq_got heq with rfl | ⟨copy, rfl, rfl⟩
      · exact putDone_step (h.answers id owner hbefore) move
      · exact putDone_step (h.copies id copy hbefore) move

theorem sourced_start (ttl : Duration) (now : Nat) : (start ttl now).Sourced where
  entries := fun _ he => nomatch he
  copies := fun _ _ h => nomatch h
  answers := fun _ _ h => nomatch h

theorem Sourced.run (h : s.Sourced) (moves : List Move) : (s.run moves).Sourced := by
  induction moves generalizing s with
  | nil => exact h
  | cons move moves ih => exact ih (h.step move)

/-! ## A call left alone -/

/-- The clock, the cache, and where one call stands. -/
structure At (s : CacheRace) (i now : Nat) (c : OwnerCache) (call : CacheCall) : Prop where
  now : s.now = now
  cache : s.cache = c
  call : s.calls[i]? = some call

theorem At.advance {now : Nat} {c : OwnerCache} {call : CacheCall} (h : s.At i now c call) :
    (s.step (.advance i)).At i now (stepCall now c call).1 (stepCall now c call).2 := by
  obtain ⟨rfl, rfl, hcall⟩ := h
  have hlt : i < s.calls.length := (List.getElem?_eq_some_iff.mp hcall).1
  simp only [step, hcall]
  exact ⟨rfl, rfl, List.getElem?_set_self hlt⟩

theorem At.visit {now : Nat} {c : OwnerCache} {due : List ProcessId} {removed : Nat}
    (h : s.At i now c (.purging due removed)) (id : ProcessId) :
    (s.step (.visit i id)).At i now (c.removeStale now id)
      (.purging (due.filter (· != id)) (removed + c.staleOf now id)) := by
  obtain ⟨rfl, rfl, hcall⟩ := h
  have hlt : i < s.calls.length := (List.getElem?_eq_some_iff.mp hcall).1
  simp only [step, hcall]
  exact ⟨rfl, rfl, List.getElem?_set_self hlt⟩

/-- A `get` that no other call interrupts, after any moves from an empty cache, answers and drops
what `OwnerCache.get` does: no process has two entries, so that there is one to remove at most. -/
theorem get_alone {ttl : Duration} {begun : Nat} {before : List Move} {now : Nat} {c : OwnerCache}
    (h : ((start ttl begun).run before).At i now c (.get id)) :
    (((start ttl begun).run before).run [.advance i, .advance i, .advance i]).At i now
      (c.get now id).2 (.got id (c.get now id).1) := by
  have hids : c.HasDistinctIds := by
    obtain ⟨-, rfl, -⟩ := h
    have hempty : (start ttl begun).cache.HasDistinctIds := List.nodup_nil
    exact distinct_run hempty before
  have hthree := h.advance.advance.advance
  cases hfind : c.find? id with
  | none => simpa [run, stepCall, OwnerCache.get, hfind] using hthree
  | some e =>
    cases hfresh : c.isFresh now e with
    | true => simpa [run, stepCall, OwnerCache.get, hfind, hfresh] using hthree
    | false =>
      have hdrop := OwnerCache.removeStale_of_stale hids hfind hfresh
      simpa [run, stepCall, OwnerCache.get, hfind, hfresh, hdrop] using hthree

/-- A `put` that no other call interrupts writes what `OwnerCache.put` does. -/
theorem put_alone {now : Nat} {c : OwnerCache} (h : s.At i now c (.put id owner)) :
    (s.run [.advance i, .advance i]).At i now (c.put now id owner) (.putDone id owner) :=
  h.advance.advance

/-- What a purge has done after it has met the entries of some processes. -/
theorem At.visits {now : Nat} {c : OwnerCache} {due : List ProcessId} {removed : Nat}
    (h : s.At i now c (.purging due removed)) (ids : List ProcessId) :
    ∃ removed',
      (s.run (ids.map (.visit i))).At i now
        { c with entries := c.entries.filter fun e => !ids.contains e.id || c.isFresh now e }
        (.purging (due.filter fun id => !ids.contains id) removed') ∧
      (c.entries.filter fun e => !ids.contains e.id || c.isFresh now e).length + removed' =
        c.size + removed := by
  induction ids generalizing s c due removed with
  | nil => exact ⟨removed, by simpa [run] using h, by simp [OwnerCache.size]⟩
  | cons id ids ih =>
    obtain ⟨removed', hat, hsize⟩ := ih (h.visit id)
    have hdue : ((due.filter (· != id)).filter fun id => !ids.contains id) =
        due.filter fun id' => !(id :: ids).contains id' := by
      rw [List.filter_filter]
      refine List.filter_congr fun id' _ => ?_
      rw [List.contains_cons, Bool.not_or, Bool.and_comm, bne]
    have hcount := c.size_removeStale_add_staleOf now id
    rw [OwnerCache.isFresh_removeStale, OwnerCache.filter_removeStale] at hat hsize
    rw [hdue] at hat
    exact ⟨removed', hat, by omega⟩

/-- A purge that no other call interrupts drops what `OwnerCache.purge` does, and counts it. -/
theorem purge_alone {now : Nat} {c : OwnerCache} (h : s.At i now c .purge) :
    let ids := c.entries.map (·.id)
    (s.run (.advance i :: ids.map (.visit i) ++ [.advance i])).At i now (c.purge now)
      (.purged (c.stale now)) := by
  intro ids
  obtain ⟨removed, hat, hsize⟩ := h.advance.visits ids
  have hentries : (c.entries.filter fun e => !ids.contains e.id || c.isFresh now e) =
      (c.purge now).entries := by
    refine List.filter_congr fun e he => ?_
    rw [List.contains_iff_mem.mpr (List.mem_map_of_mem he), Bool.not_true, Bool.false_or]
  have hdue : (ids.filter fun id => !ids.contains id) = [] :=
    List.filter_eq_nil_iff.mpr fun id hid => by simp [hid]
  simp only [stepCall] at hat hsize
  rw [hentries] at hat hsize
  rw [hdue] at hat
  have hcount := c.size_purge_add_stale now
  obtain rfl : removed = c.stale now := by
    simp only [OwnerCache.size] at hsize hcount
    omega
  rw [List.cons_append, run_cons, run_concat]
  exact hat.advance

/-! ## Any interleaving -/

/-- **Fresh entries survive every interleaving.**  After any moves from an empty cache: the next
move, whatever it is, leaves an entry that is fresh, unless it is a `put` that writes another for
the same process; what a `put` writes is there after any further moves until it is as old as the
time to live or a `put` of its process has written again; and a `get` that has answered with an
owner has it from a `put` of its process that is done. -/
theorem fresh_survives_interleaving (ttl : Duration) (begun : Nat) (moves : List Move) :
    let s := (start ttl begun).run moves
    (∀ move id e, s.cache.find? id = some e → s.cache.isFresh s.now e = true →
      ¬ s.Writes move id → (s.step move).cache.find? id = some e) ∧
    (∀ i id owner time more, s.calls[i]? = some (.putStamped id owner time) →
      let written := s.step (.advance i)
      (written.run more).cache.find? id = some ⟨id, owner, time⟩ ∨
      ttl.nanos ≤ (Duration.ofMillis ((written.run more).now - time)).nanos ∨
      written.WritesAmong more id) ∧
    ∀ id owner, .got id (some owner) ∈ s.calls → .putDone id owner ∈ s.calls := by
  intro s
  refine ⟨fun move id e h hfresh hwrites => (find?_step h hfresh move).resolve_right hwrites, ?_,
    ((sourced_start ttl begun).run moves).answers⟩
  intro i id owner time more hcall written
  have hwritten : written.cache.find? id = some ⟨id, owner, time⟩ := by
    simp only [written, step, hcall, stepCall]
    exact OwnerCache.find?_put_self s.cache time id owner
  have httl : (written.run more).cache.ttl = ttl := by
    rw [ttl_run, ttl_step, ttl_run]
    rfl
  by_cases hfresh : (written.run more).cache.isFresh (written.run more).now ⟨id, owner, time⟩ = true
  · rcases find?_run hwritten hfresh with hfound | hwrites
    · exact Or.inl hfound
    · exact Or.inr (Or.inr hwrites)
  · rw [OwnerCache.isFresh_iff, httl] at hfresh
    exact Or.inr (Or.inl (Nat.le_of_not_lt hfresh))

/-- A `get` looks at an entry that is just past its ten milliseconds; a `put` refreshes the entry
before the `get` removes it, and what was put survives the removal and answers the next `get`. -/
theorem refreshed_between_look_and_removal :
    let p : ProcessId := ⟨"p", by rfl, by decide⟩
    let moves : List Move := [.begin (.put p "old"), .advance 0, .advance 0, .tick 10,
      .begin (.get p), .advance 1, .advance 1, .begin (.put p "new"), .advance 2]
    let more : List Move := [.begin (.get p), .advance 3, .advance 3]
    let s := (start (.ofMillis 10) 0).run moves
    let written := s.step (.advance 2)
    let removed := written.step (.advance 1)
    s.cache.find? p = some ⟨p, "old", 0⟩ ∧ s.calls[1]? = some (.getStale p) ∧
    written.cache.find? p = some ⟨p, "new", 10⟩ ∧ removed.cache.find? p = some ⟨p, "new", 10⟩ ∧
    .got p (some "new") ∈ (removed.run more).calls ∧
    .putDone p "new" ∈ (removed.run more).calls := by
  intro p moves more s written removed
  have hstale : s.calls[1]? = some (.getStale p) := by decide
  obtain ⟨-, hwritten, -⟩ := fresh_survives_interleaving (.ofMillis 10) 0 moves
  obtain ⟨hstays, -, -⟩ := fresh_survives_interleaving (.ofMillis 10) 0 (moves ++ [.advance 2])
  rw [run_concat] at hstays
  obtain ⟨-, -, hanswers⟩ :=
    fresh_survives_interleaving (.ofMillis 10) 0 (moves ++ [.advance 2] ++ [.advance 1] ++ more)
  rw [run_append, run_concat, run_concat] at hanswers
  have hnew : written.cache.find? p = some ⟨p, "new", 10⟩ := by
    have hnone := hwritten 2 p "new" 10 [] (by decide)
    simp only [run_nil] at hnone
    rcases hnone with hfound | hold | ⟨before, move, after, heq, -⟩
    · exact hfound
    · exact absurd hold (by decide)
    · cases before <;> cases heq
  have hanswer : .got p (some "new") ∈ (removed.run more).calls := by decide +kernel
  refine ⟨by decide, hstale, hnew, ?_, hanswer, hanswers p "new" hanswer⟩
  refine hstays (.advance 1) p _ hnew (by decide +kernel) ?_
  rintro ⟨i, owner, time, hi, hcall⟩
  cases hi
  have hgets : written.calls[1]? = some (.getStale p) := by decide
  exact CacheCall.noConfusion (Option.some.inj (hgets.symm.trans hcall))

end CacheRace
end AffinityGate
