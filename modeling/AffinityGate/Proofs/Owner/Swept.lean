import Mathlib.Algebra.Ring.Nat
import AffinityGate.Proofs.Owner.Cache
import AffinityGate.Routing.Sweeper

/-!
# The owner cache over whole runs: the latest write, while it is young

A run writes owners, reads them, purges, starts and stops sweepers and lets time pass.
`run_refines_last_put` says what can be seen of the cache after any run: a process has the owner
that was put last for it, exactly while less than the time to live has passed since then.  Reading,
purging and sweeping cannot be seen at all.
-/

namespace AffinityGate

namespace SweptCache

/-! ## Runs and what they write -/

/-- An empty cache without sweepers. -/
def start (ttl : Duration) (now : Nat) : SweptCache :=
  ⟨now, .empty ttl, []⟩

/-- A run of steps. -/
def run (s : SweptCache) (steps : List Step) : SweptCache :=
  steps.foldl step s

/-- What a `get` of a process would yield. -/
def owner? (s : SweptCache) (id : ProcessId) : Option String :=
  (s.cache.get s.now id).1

namespace Step

/-- How far a step moves the clock. -/
def millis : Step → Nat
  | .advance n => n
  | _ => 0

/-- Whether a step writes an owner or lets time pass.  All others read, purge or sweep. -/
def isVisible : Step → Bool
  | .put _ _ => true
  | .advance _ => true
  | _ => false

end Step

/-- The time that passes in a run. -/
def elapsed (steps : List Step) : Nat :=
  (steps.map Step.millis).sum

/-- The writes of a run that begins at `now`, the latest first. -/
def writes : Nat → List Step → List CacheEntry
  | _, [] => []
  | now, .put id owner :: steps => writes now steps ++ [⟨id, owner, now⟩]
  | now, .advance n :: steps => writes (now + n) steps
  | now, _ :: steps => writes now steps

theorem elapsed_append (before after : List Step) :
    elapsed (before ++ after) = elapsed before + elapsed after := by
  simp [elapsed]

theorem writes_append (now : Nat) (before after : List Step) :
    writes now (before ++ after) = writes (now + elapsed before) after ++ writes now before := by
  induction before generalizing now with
  | nil => simp [writes, elapsed]
  | cons step before ih =>
    cases step <;> simp [writes, elapsed, Step.millis, ih, Nat.add_assoc]

/-- Steps that are not visible take no time. -/
theorem elapsed_filter_isVisible (steps : List Step) :
    elapsed (steps.filter Step.isVisible) = elapsed steps := by
  induction steps with
  | nil => rfl
  | cons step steps ih =>
    unfold elapsed at ih ⊢
    cases step <;> simp [List.filter_cons, Step.isVisible, Step.millis, ih]

/-- Steps that are not visible write nothing. -/
theorem writes_filter_isVisible (now : Nat) (steps : List Step) :
    writes now (steps.filter Step.isVisible) = writes now steps := by
  induction steps generalizing now with
  | nil => rfl
  | cons step steps ih => cases step <;> simp [List.filter_cons, Step.isVisible, writes, ih]

/-! ## The latest put in a run -/

/-- A process is put last at some place of a run, or it is not put at all. -/
theorem exists_last_put_or (id : ProcessId) (steps : List Step) :
    (∃ before owner after, steps = before ++ .put id owner :: after ∧
      ∀ o, Step.put id o ∉ after) ∨ ∀ o, Step.put id o ∉ steps := by
  induction steps with
  | nil => exact Or.inr fun o => by simp
  | cons step steps ih =>
    rcases ih with ⟨before, owner, after, rfl, hlast⟩ | hnone
    · exact Or.inl ⟨step :: before, owner, after, rfl, hlast⟩
    · by_cases hput : ∃ owner, step = .put id owner
      · obtain ⟨owner, rfl⟩ := hput
        exact Or.inl ⟨[], owner, steps, rfl, hnone⟩
      · refine Or.inr fun o hmem => ?_
        rcases List.mem_cons.mp hmem with heq | hmem
        · exact hput ⟨o, heq.symm⟩
        · exact hnone o hmem

theorem latestWrite?_writes_eq_none {id : ProcessId} (now : Nat) {steps : List Step}
    (h : ∀ o, Step.put id o ∉ steps) : latestWrite? (writes now steps) id = none := by
  induction steps generalizing now with
  | nil => rfl
  | cons step steps ih =>
    have hrest := fun now => ih now fun o ho => h o (List.mem_cons_of_mem step ho)
    cases step with
    | put i owner =>
      have hne : i ≠ id := by
        rintro rfl
        exact h owner List.mem_cons_self
      have hrest := hrest now
      unfold latestWrite? at hrest ⊢
      rw [writes, List.find?_append, hrest]
      simp [hne]
    | advance n => exact hrest (now + n)
    | get i => exact hrest now
    | purge => exact hrest now
    | sweep => exact hrest now
    | stopSweep => exact hrest now

/-- The put that no other put of the process follows is the latest write. -/
theorem latestWrite?_writes_last_put (now : Nat) (before : List Step) (id : ProcessId)
    (owner : String) {after : List Step} (hlast : ∀ o, Step.put id o ∉ after) :
    latestWrite? (writes now (before ++ .put id owner :: after)) id =
      some ⟨id, owner, now + elapsed before⟩ := by
  have hafter := latestWrite?_writes_eq_none (now + elapsed before) hlast
  unfold latestWrite? at hafter ⊢
  rw [writes_append, writes, List.find?_append, List.find?_append, hafter]
  simp

/-! ## One step -/

theorem now_step (s : SweptCache) (step : Step) : (s.step step).now = s.now + step.millis := by
  cases step with
  | advance n =>
    simp only [SweptCache.step, settle]
    split <;> rfl
  | sweep =>
    simp only [SweptCache.step]
    split <;> rfl
  | _ => rfl

/-- What a step can do to the cache.  A sweeper that is due purges at the new time. -/
theorem cache_step (s : SweptCache) (step : Step) :
    (∃ id owner, step = .put id owner ∧ (s.step step).cache = s.cache.put s.now id owner) ∨
    (∀ now, writes now [step] = []) ∧ ((s.step step).cache = s.cache ∨
      (∃ id, step = .get id ∧ (s.step step).cache = (s.cache.get s.now id).2) ∨
      (s.step step).cache = s.cache.purge (s.step step).now) := by
  cases step with
  | put id owner => exact Or.inl ⟨id, owner, rfl, rfl⟩
  | get id => exact Or.inr ⟨fun _ => rfl, Or.inr (Or.inl ⟨id, rfl, rfl⟩)⟩
  | purge => exact Or.inr ⟨fun _ => rfl, Or.inr (Or.inr rfl)⟩
  | advance n =>
    refine Or.inr ⟨fun _ => rfl, ?_⟩
    simp only [SweptCache.step, settle]
    split
    · exact Or.inr (Or.inr rfl)
    · exact Or.inl rfl
  | sweep =>
    refine Or.inr ⟨fun _ => rfl, Or.inl ?_⟩
    simp only [SweptCache.step]
    split <;> rfl
  | stopSweep => exact Or.inr ⟨fun _ => rfl, Or.inl rfl⟩

/-! ## Whole runs -/

/-- A cache has come out of a run that began at `begun`: the clock has moved as far as the run
takes, what is current among the writes of the run is kept, and no process has two entries. -/
structure CameFrom (s : SweptCache) (ttl : Duration) (begun : Nat) (steps : List Step) : Prop where
  now : s.now = begun + elapsed steps
  ttl : s.cache.ttl = ttl
  keeps : s.cache.Keeps s.now (writes begun steps)
  distinct : s.cache.HasDistinctIds

theorem cameFrom_start (ttl : Duration) (now : Nat) : (start ttl now).CameFrom ttl now [] where
  now := rfl
  ttl := rfl
  keeps := OwnerCache.keeps_empty ttl now
  distinct := List.nodup_nil

theorem CameFrom.step {s : SweptCache} {ttl : Duration} {begun : Nat} {steps : List Step}
    (h : s.CameFrom ttl begun steps) (step : Step) :
    (s.step step).CameFrom ttl begun (steps ++ [step]) := by
  have hnow : (s.step step).now = begun + elapsed (steps ++ [step]) := by
    rw [now_step, h.now, elapsed_append, Nat.add_assoc]
    simp [elapsed]
  have hlater : s.cache.Keeps (s.step step).now (writes begun steps) :=
    h.keeps.later (by rw [now_step]; exact Nat.le_add_right _ _)
  rcases cache_step s step with ⟨id, owner, rfl, hcache⟩ | ⟨hsilent, hcache⟩
  · have hwrites : writes begun (steps ++ [.put id owner]) =
        ⟨id, owner, s.now⟩ :: writes begun steps := by
      rw [writes_append, ← h.now]
      rfl
    refine ⟨hnow, ?_, ?_, ?_⟩
    · rw [hcache, OwnerCache.ttl_put, h.ttl]
    · rw [hcache, hwrites]
      exact h.keeps.put id owner
    · rw [hcache]
      exact h.distinct.put s.now id owner
  · have hwrites : writes begun (steps ++ [step]) = writes begun steps := by
      rw [writes_append, hsilent, List.nil_append]
    rw [← hwrites] at hlater
    rcases hcache with hcache | ⟨id, rfl, hcache⟩ | hcache
    · refine ⟨hnow, ?_, ?_, ?_⟩
      · rw [hcache, h.ttl]
      · rw [hcache]
        exact hlater
      · rw [hcache]
        exact h.distinct
    · refine ⟨hnow, ?_, ?_, ?_⟩
      · rw [hcache, OwnerCache.ttl_get, h.ttl]
      · rw [hcache]
        exact hlater.get id
      · rw [hcache]
        exact h.distinct.get s.now id
    · refine ⟨hnow, ?_, ?_, ?_⟩
      · rw [hcache, OwnerCache.ttl_purge, h.ttl]
      · rw [hcache]
        exact hlater.purge
      · rw [hcache]
        exact h.distinct.purge _

theorem CameFrom.run {s : SweptCache} {ttl : Duration} {begun : Nat} {before : List Step}
    (h : s.CameFrom ttl begun before) (steps : List Step) :
    (s.run steps).CameFrom ttl begun (before ++ steps) := by
  induction steps generalizing s before with
  | nil =>
    rw [List.append_nil]
    exact h
  | cons step steps ih =>
    have hrun := ih (h.step step)
    rw [List.append_assoc] at hrun
    exact hrun

theorem cameFrom_run (ttl : Duration) (now : Nat) (steps : List Step) :
    ((start ttl now).run steps).CameFrom ttl now steps :=
  (cameFrom_start ttl now).run steps

/-- What a cache yields is decided by the writes of its run and the time that has passed. -/
theorem CameFrom.owner?_eq {s : SweptCache} {ttl : Duration} {begun : Nat} {steps : List Step}
    (h : s.CameFrom ttl begun steps) (id : ProcessId) :
    s.owner? id = ((latestWrite? (writes begun steps) id).filter fun e =>
      (Duration.ofMillis (begun + elapsed steps - e.written)).nanos < ttl.nanos).map (·.owner) := by
  unfold owner?
  rw [h.keeps.get_eq, h.now, ← h.ttl]
  rfl

/-- The owner that a cache yields was put last, and not too long ago. -/
theorem CameFrom.owner?_eq_some_iff {s : SweptCache} {ttl : Duration} {begun : Nat}
    {steps : List Step} (h : s.CameFrom ttl begun steps) (id : ProcessId) (owner : String) :
    s.owner? id = some owner ↔ ∃ before after, steps = before ++ .put id owner :: after ∧
      (∀ o, Step.put id o ∉ after) ∧ (Duration.ofMillis (elapsed after)).nanos < ttl.nanos := by
  have hage : ∀ (before : List Step) (o : String) (after : List Step),
      begun + elapsed (before ++ .put id o :: after) - (begun + elapsed before) =
        elapsed after := by
    intro before o after
    rw [elapsed_append]
    have : elapsed (.put id o :: after) = elapsed after := by simp [elapsed, Step.millis]
    omega
  constructor
  · intro howner
    rcases exists_last_put_or id steps with ⟨before, o, after, rfl, hlast⟩ | hnone
    · rw [h.owner?_eq, latestWrite?_writes_last_put begun before id o hlast,
        Option.map_eq_some_iff] at howner
      obtain ⟨e, he, rfl⟩ := howner
      rw [Option.filter_eq_some_iff] at he
      obtain ⟨heq, hyoung⟩ := he
      cases heq
      rw [hage] at hyoung
      exact ⟨before, after, rfl, hlast, by simpa using hyoung⟩
    · rw [h.owner?_eq, latestWrite?_writes_eq_none begun hnone] at howner
      cases howner
  · rintro ⟨before, after, rfl, hlast, hyoung⟩
    rw [h.owner?_eq, latestWrite?_writes_last_put begun before id owner hlast]
    rw [Option.filter_some_pos (by simpa [hage] using hyoung)]
    rfl

/-- **The cache is the latest put while it is young.**  After any run on an empty cache, a `get`
yields the owner of the last put of the process if less than the time to live has passed since
then, and nothing otherwise; two runs that write and wait alike yield the same, whatever else is
read, purged or swept in them; a purge counts exactly the entries it drops, and keeps those that
are fresh and no others; and no process is counted twice. -/
theorem run_refines_last_put (ttl : Duration) (now : Nat) (steps : List Step) :
    let s := (start ttl now).run steps
    (∀ id owner, s.owner? id = some owner ↔
      ∃ before after, steps = before ++ .put id owner :: after ∧
        (∀ o, Step.put id o ∉ after) ∧
        (Duration.ofMillis (elapsed after)).nanos < ttl.nanos) ∧
    (∀ others : List Step, others.filter Step.isVisible = steps.filter Step.isVisible →
      ∀ id, ((start ttl now).run others).owner? id = s.owner? id) ∧
    (s.step .purge).cache.size + s.cache.stale s.now = s.cache.size ∧
    (∀ e, e ∈ (s.step .purge).cache.entries ↔
      e ∈ s.cache.entries ∧ s.cache.isFresh s.now e = true) ∧
    (s.cache.entries.map (·.id)).Nodup := by
  intro s
  have h := cameFrom_run ttl now steps
  refine ⟨h.owner?_eq_some_iff, fun others hothers id => ?_, s.cache.size_purge_add_stale s.now,
    fun e => OwnerCache.mem_purge, h.distinct⟩
  have hwrites : writes now others = writes now steps := by
    rw [← writes_filter_isVisible, hothers, writes_filter_isVisible]
  have helapsed : elapsed others = elapsed steps := by
    rw [← elapsed_filter_isVisible, hothers, elapsed_filter_isVisible]
  rw [(cameFrom_run ttl now others).owner?_eq, h.owner?_eq, hwrites, helapsed]

/-- An owner put for ten milliseconds is there after nine, also if the cache was read, purged and
swept in between, and is gone after ten. -/
theorem put_for_ten_millis :
    let p : ProcessId := ⟨"p", by rfl, by decide⟩
    let steps := [Step.put p "old", .advance 5, .put p "new", .advance 9]
    let others := [Step.sweep, .put p "old", .get p, .advance 5, .purge, .put p "new", .advance 9,
      .stopSweep]
    let cache := start (.ofMillis 10) 3
    others.filter Step.isVisible = steps.filter Step.isVisible ∧
    (cache.run others).owner? p = some "new" ∧
    (cache.run (steps ++ [.advance 1])).owner? p = none := by
  intro p steps others cache
  have halike : others.filter Step.isVisible = steps.filter Step.isVisible := by decide
  obtain ⟨howner, hunseen, -⟩ := run_refines_last_put (.ofMillis 10) 3 steps
  refine ⟨halike, ?_, ?_⟩
  · rw [hunseen others halike p]
    exact (howner p "new").mpr
      ⟨[.put p "old", .advance 5], [.advance 9], rfl, by simp, by decide⟩
  · decide

end SweptCache
end AffinityGate
