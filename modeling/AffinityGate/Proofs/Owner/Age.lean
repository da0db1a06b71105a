import Mathlib.Data.List.Dedup
import Mathlib.Data.List.Perm.Subperm
import AffinityGate.Proofs.Owner.Swept

/-!
# How old a stored entry can be

A cache drops an entry that is past its time only when it is met, so an entry that nobody asks for
is dropped by the sweeper, which comes once in each time to live.  `Watched` relates the next due
time of a sweeper to the clock and to the age of every entry, and every step keeps it, however far
the clock jumps.  From it follows `swept_entries_young`: once a sweeper has run for a time to live,
no entry that is stored is as old as two of them.
-/

namespace AffinityGate

namespace SweptCache

/-- The processes that are put in a run with less than `age` to go until its end, the first put
first. -/
def putWithin (age : Nat) : List Step → List ProcessId
  | [] => []
  | .put id _ :: steps =>
    if elapsed steps < age then id :: putWithin age steps else putWithin age steps
  | _ :: steps => putWithin age steps

/-- A write that is young at the end of a run is a put that was made within that age. -/
theorem id_mem_putWithin {age now : Nat} {steps : List Step} {e : CacheEntry}
    (he : e ∈ writes now steps) (hyoung : now + elapsed steps < e.written + age) :
    e.id ∈ putWithin age steps := by
  induction steps generalizing now with
  | nil => cases he
  | cons step steps ih =>
    have helapsed : elapsed (step :: steps) = step.millis + elapsed steps := by simp [elapsed]
    rw [helapsed] at hyoung
    cases step with
    | put id owner =>
      simp only [Step.millis, Nat.zero_add] at hyoung
      unfold putWithin
      rcases List.mem_append.mp he with he | he
      · have hmem := ih he hyoung
        split
        · exact List.mem_cons_of_mem id hmem
        · exact hmem
      · obtain rfl := List.mem_singleton.mp he
        rw [if_pos (by simpa using hyoung)]
        exact List.mem_cons_self
    | advance n => exact ih he (by simpa [Step.millis, Nat.add_assoc] using hyoung)
    | get _ | purge | sweep | stopSweep => exact ih he (by simpa [Step.millis] using hyoung)

/-! ## Due times -/

/-- After a due time has passed the next one is ahead, by a period at most.  A sweeper that is late
keeps its rhythm or begins a new one, but it leaves no longer gap. -/
theorem nextDue_bounds {now period due : Nat} (hperiod : 0 < period) (hdue : due ≤ now) :
    now < nextDue now period due ∧ nextDue now period due ≤ now + period := by
  unfold nextDue
  split
  · omega
  · have hparts := Nat.div_add_mod (now - due) period
    have hrest := Nat.mod_lt (now - due) hperiod
    rw [Nat.mul_comm period] at hparts
    rw [Nat.add_mul, Nat.one_mul]
    omega

/-- A sweeper watches a cache with a time to live of whole milliseconds.  It was started at `begun`
and is due ahead of the clock, within a time to live; and unless this is still the first time it
is due, no entry will be as old as two times to live by then. -/
structure Watched (s : SweptCache) (millis begun due : Nat) : Prop where
  ttl : s.cache.ttl = .ofMillis millis
  listed : due ∈ s.due
  ahead : s.now < due
  soon : due ≤ s.now + millis
  young : due = begun + millis ∨ ∀ e ∈ s.cache.entries, due < e.written + 2 * millis

variable {s : SweptCache} {millis begun due : Nat}

theorem period_eq (httl : s.cache.ttl = .ofMillis millis) : s.period = millis := by
  rw [period, httl, Duration.timerMillis_ofMillis]

theorem watched_sweep (hpositive : 0 < millis) (httl : s.cache.ttl = .ofMillis millis) :
    (s.step .sweep).Watched millis s.now (s.now + millis) := by
  have hperiod := period_eq httl
  rw [step, if_neg (by omega), hperiod]
  exact ⟨httl, by simp, Nat.lt_add_of_pos_right hpositive, Nat.le_refl _, Or.inl rfl⟩

/-- A step that takes no time and leaves the sweeper alone, and writes entries of the present at
most. -/
theorem Watched.of_entries (hpositive : 0 < millis) (h : s.Watched millis begun due)
    {s' : SweptCache} (hnow : s'.now = s.now) (httl : s'.cache.ttl = s.cache.ttl)
    (hdue : due ∈ s'.due)
    (hentries : ∀ e ∈ s'.cache.entries, e ∈ s.cache.entries ∨ e.written = s.now) :
    s'.Watched millis begun due := by
  have hsoon := h.soon
  refine ⟨httl.trans h.ttl, hdue, hnow ▸ h.ahead, hnow ▸ hsoon,
    h.young.imp_right fun hyoung e he => ?_⟩
  rcases hentries e he with hold | hnew
  · exact hyoung e hold
  · omega

/-- What a purge leaves is younger than the time to live. -/
theorem young_of_mem_purge {c : OwnerCache} (httl : c.ttl = .ofMillis millis) {now : Nat}
    {e : CacheEntry} (he : e ∈ (c.purge now).entries) : now < e.written + millis := by
  have hfresh := (c.isFresh_iff now e).mp (OwnerCache.mem_purge.mp he).2
  rw [httl] at hfresh
  have hage : now - e.written < millis := Nat.lt_of_mul_lt_mul_right hfresh
  omega

/-- Time passes: if the sweeper has become due, it has purged and is due again; if another one has,
there are fewer entries. -/
theorem Watched.advance (hpositive : 0 < millis) (h : s.Watched millis begun due) (n : Nat) :
    ∃ due', (s.step (.advance n)).Watched millis begun due' := by
  obtain ⟨httl, hlisted, hahead, hsoon, hyoung⟩ := h
  simp only [step, settle]
  split
  · rw [show period { s with now := s.now + n } = millis from period_eq httl]
    by_cases hpassed : due ≤ s.now + n
    · obtain ⟨hahead', hsoon'⟩ := nextDue_bounds hpositive hpassed
      refine ⟨nextDue (s.now + n) millis due, httl, ?_, hahead', hsoon', Or.inr fun e he => ?_⟩
      · exact List.mem_map.mpr ⟨due, hlisted, if_pos hpassed⟩
      · have hkept : s.now + n < e.written + millis := young_of_mem_purge httl he
        omega
    · refine ⟨due, httl, ?_, Nat.not_le.mp hpassed, ?_, hyoung.imp_right fun hyoung e he => ?_⟩
      · exact List.mem_map.mpr ⟨due, hlisted, if_neg hpassed⟩
      · exact Nat.le_trans hsoon (by simp only; omega)
      · exact hyoung e (OwnerCache.mem_purge.mp he).1
  · rename_i hnone
    have hnotyet : ¬due ≤ s.now + n := fun hpassed =>
      hnone (List.any_eq_true.mpr ⟨due, hlisted, decide_eq_true hpassed⟩)
    refine ⟨due, httl, hlisted, Nat.not_le.mp hnotyet, ?_, hyoung⟩
    exact Nat.le_trans hsoon (by simp only; omega)

/-- Every step but the one that stops the sweepers leaves a cache watched. -/
theorem Watched.step (hpositive : 0 < millis) (h : s.Watched millis begun due) {step : Step}
    (hkept : step ≠ .stopSweep) : ∃ due', (s.step step).Watched millis begun due' := by
  cases step with
  | put id owner =>
    refine ⟨due, h.of_entries hpositive rfl rfl h.listed fun e he => ?_⟩
    rcases OwnerCache.mem_put.mp he with rfl | ⟨hold, -⟩
    · exact Or.inr rfl
    · exact Or.inl hold
  | get id =>
    obtain ⟨keep, hkeep⟩ := s.cache.exists_get_eq_filter s.now id
    refine ⟨due, h.of_entries hpositive rfl (OwnerCache.ttl_get ..) h.listed fun e he => Or.inl ?_⟩
    rw [SweptCache.step, hkeep] at he
    exact (List.mem_filter.mp he).1
  | purge =>
    exact ⟨due, h.of_entries hpositive rfl rfl h.listed fun e he =>
      Or.inl (OwnerCache.mem_purge.mp he).1⟩
  | advance n => exact h.advance hpositive n
  | sweep =>
    refine ⟨due, ?_⟩
    rw [SweptCache.step]
    split
    · exact h
    · exact h.of_entries hpositive rfl rfl (List.mem_append_left _ h.listed) fun e he => Or.inl he
  | stopSweep => exact absurd rfl hkept

theorem Watched.run (hpositive : 0 < millis) (h : s.Watched millis begun due) {steps : List Step}
    (hkept : .stopSweep ∉ steps) : ∃ due', (s.run steps).Watched millis begun due' := by
  induction steps generalizing s due with
  | nil => exact ⟨due, h⟩
  | cons step steps ih =>
    rw [List.mem_cons, not_or] at hkept
    obtain ⟨due', hstep⟩ := h.step hpositive (Ne.symm hkept.1)
    exact ih hstep hkept.2

/-- Once the first due time has passed, no entry is as old as two times to live. -/
theorem Watched.lt_written_add (h : s.Watched millis begun due) (hlater : begun + millis ≤ s.now)
    {e : CacheEntry} (he : e ∈ s.cache.entries) : s.now < e.written + 2 * millis := by
  have hahead := h.ahead
  rcases h.young with hfirst | hyoung
  · omega
  · exact Nat.lt_trans hahead (hyoung e he)

/-! ## Sizes -/

/-- If every entry is younger than some age, there are at most as many of them as processes were put
within that age. -/
theorem CameFrom.size_le {ttl : Duration} {begun : Nat} {steps : List Step}
    (h : s.CameFrom ttl begun steps) {age : Nat}
    (hyoung : ∀ e ∈ s.cache.entries, s.now < e.written + age) :
    s.cache.size ≤ (putWithin age steps).dedup.length := by
  have hput : s.cache.entries.map (·.id) ⊆ (putWithin age steps).dedup := by
    intro id hid
    obtain ⟨e, he, rfl⟩ := List.mem_map.mp hid
    have hwritten : e ∈ writes begun steps := List.mem_of_find?_eq_some (h.keeps.sound e he)
    exact List.mem_dedup.mpr (id_mem_putWithin hwritten (h.now ▸ hyoung e he))
  have hle := (h.distinct.subperm hput).length_le
  rwa [List.length_map] at hle

/-- **A swept cache stores nothing as old as two times to live.**  A sweeper is started after any
run on an empty cache, and is not stopped.  Whatever is put, read and purged afterwards, and however
the clock jumps, from one time to live after its start on every entry that is stored was written
less than two times to live ago, so that there are at most as many entries as processes were put
within that time. -/
theorem swept_entries_young {millis : Nat} (hpositive : 0 < millis) (now : Nat)
    (before after : List Step) (hkept : .stopSweep ∉ after) :
    let started := (start (.ofMillis millis) now).run before
    let s := started.run (.sweep :: after)
    started.now + millis ≤ s.now →
      (∀ e ∈ s.cache.entries, s.now < e.written + 2 * millis) ∧
      s.cache.size ≤ (putWithin (2 * millis) (before ++ .sweep :: after)).dedup.length := by
  intro started s hlater
  have hstarted : started.CameFrom (.ofMillis millis) now before := cameFrom_run _ _ _
  obtain ⟨due, hwatched⟩ := (watched_sweep hpositive hstarted.ttl).run hpositive hkept
  have hyoung : ∀ e ∈ s.cache.entries, s.now < e.written + 2 * millis :=
    fun e he => hwatched.lt_written_add hlater he
  exact ⟨hyoung, (hstarted.run (.sweep :: after)).size_le hyoung⟩

/-- With ten milliseconds to live an entry can be stored for eighteen: the sweeper comes a
millisecond late, the entry is put then and is still fresh when the sweeper comes again. -/
theorem stored_for_eighteen_millis :
    let p : ProcessId := ⟨"p", by rfl, by decide⟩
    let q : ProcessId := ⟨"q", by rfl, by decide⟩
    let before := [Step.put p "a", .advance 4]
    let after := [Step.advance 11, .put q "b", .advance 9, .advance 9]
    let started := (start (.ofMillis 10) 3).run before
    let s := started.run (.sweep :: after)
    started.now + 10 ≤ s.now ∧ s.now = 36 ∧ s.cache.entries = [⟨q, "b", 18⟩] ∧
      (∀ e ∈ s.cache.entries, s.now < e.written + 20) ∧ s.cache.size ≤ 1 := by
  intro p q before after started s
  have hlater : started.now + 10 ≤ s.now := by decide
  obtain ⟨hyoung, hsize⟩ :=
    swept_entries_young (show 0 < 10 by decide) 3 before after (by decide) hlater
  have hput : (putWithin 20 (before ++ .sweep :: after)).dedup.length = 1 := by decide
  exact ⟨hlater, by decide, by decide, hyoung, hput ▸ hsize⟩

end SweptCache
end AffinityGate
