import AffinityGate.Proofs.Effects
import AffinityGate.Proofs.Owner.Cache
import AffinityGate.Routing.Dispatch
import AffinityGate.Time.Reading

/-!
# Owner resolution against a ledger of all writes

A ledger writes down every owner that was ever learnt and forgets none.  It decides by the latest
write for a process while that is younger than the time to live, and asks the registry otherwise,
which has until a deadline.  `Resolver.run_follows_ledger` says that a resolver with a cache cannot
be told from the ledger whose deadline is the resolver's limit rounded up to whole milliseconds,
whatever the registry does, over any sequence of calls.  From a ledger that holds the registry to a
limit with a fraction of a millisecond it can be told (`Resolver.late_owner_kept`).
-/

namespace AffinityGate

/-- One step of a run: a process is resolved, a request brings its process's owner along, or time
passes. -/
inductive OwnerCall
  | resolve (id : ProcessId)
  | announce (id : ProcessId) (owner : String)
  | pause (millis : Nat)
  deriving DecidableEq

/-- What a resolution comes to: the decision, what the registry was asked, and the time it took. -/
structure Ruling where
  decision : Decision
  asked : List ProcessId
  elapsed : Nat
  deriving DecidableEq

variable {σ : Type}

/-! ## A resolver in a run -/

namespace Resolved

def ruling (a : Resolved σ) : Ruling :=
  ⟨a.decision, Effect.lookups a.effects, a.elapsed⟩

/-- The situation after a resolution that began at `now`. -/
def situation (a : Resolved σ) (now : Nat) : Situation σ :=
  ⟨now + a.elapsed, a.store, a.world⟩

end Resolved

namespace Resolver

/-- One step of a run. -/
def step (r : Resolver) (out : Outside σ) (s : Situation σ) :
    OwnerCall → Option Ruling × Situation σ
  | .resolve id =>
    let a := r.resolve out s.now s.store id s.world
    (some a.ruling, a.situation s.now)
  | .announce id owner =>
    let a := r.resolveWithOwner s.now s.store id owner s.world
    (some a.ruling, a.situation s.now)
  | .pause millis => (none, { s with now := s.now + millis })

/-- The rulings of a run, and the situation after it. -/
def run (r : Resolver) (out : Outside σ) :
    Situation σ → List OwnerCall → List (Option Ruling) × Situation σ
  | s, [] => ([], s)
  | s, call :: calls =>
    let (ruling, s) := r.step out s call
    let (rulings, s) := run r out s calls
    (ruling :: rulings, s)

end Resolver

/-! ## The reference -/

/-- The time, every write ever made with the latest first, and the outside. -/
structure OwnerLedger (σ : Type) where
  now : Nat
  writes : List CacheEntry
  world : σ

/-- How a registry reacts to a question. -/
abbrev RegistryReaction := Reaction (Except RegistryError (Option String))

namespace OwnerLedger

/-- The owner written last for a process, if less than `ttl` has passed since then. -/
def current? (ttl : Duration) (l : OwnerLedger σ) (id : ProcessId) : Option String :=
  match latestWrite? l.writes id with
  | some e =>
    if (Duration.ofMillis (l.now - e.written)).nanos < ttl.nanos then some e.owner else none
  | none => none

/-- The subrouter exactly if there is an owner and it is in the allow-set. -/
def rule (p : OwnerPolicy) : Option String → Decision
  | some owner => if owner ∈ p.owners then .subrouter p.subrouter else .pool
  | none => .pool

/-- The owner in an answer of the registry, if the answer is an owner and comes by the deadline, to
the nanosecond. -/
def ownerInTime? (deadline : Duration) : RegistryReaction → Option String
  | .after millis (.ok (some owner)) =>
    if (Duration.ofMillis millis).nanos ≤ deadline.nanos then some owner else none
  | _ => none

/-- How long the registry is waited for, on a clock that shows whole milliseconds. -/
def waited (deadline : Duration) : RegistryReaction → Nat
  | .after millis _ => min millis deadline.millis
  | .never => deadline.millis

/-- An owner is written down. -/
def write (l : OwnerLedger σ) (id : ProcessId) (owner : String) : OwnerLedger σ :=
  { l with writes := ⟨id, owner, l.now⟩ :: l.writes }

/-- What the registry's reaction leaves behind: the time has passed, and an owner that came in time
is written down. -/
def learn (deadline : Duration) (l : OwnerLedger σ) (id : ProcessId)
    (asked : RegistryReaction × σ) : OwnerLedger σ :=
  let later : OwnerLedger σ := ⟨l.now + waited deadline asked.1, l.writes, asked.2⟩
  match ownerInTime? deadline asked.1 with
  | some owner => later.write id owner
  | none => later

/-- One step of a run, for a policy. -/
def step (p : OwnerPolicy) (ttl deadline : Duration) (out : Outside σ) (l : OwnerLedger σ) :
    OwnerCall → Option Ruling × OwnerLedger σ
  | .resolve id =>
    match l.current? ttl id with
    | some owner => (some ⟨rule p (some owner), [], 0⟩, l)
    | none =>
      let asked := out.owner id l.world
      (some ⟨rule p (ownerInTime? deadline asked.1), [id], waited deadline asked.1⟩,
        l.learn deadline id asked)
  | .announce id owner => (some ⟨rule p (some owner), [], 0⟩, l.write id owner)
  | .pause millis => (none, { l with now := l.now + millis })

/-- One step of a run without a policy: nothing is asked and nothing is written. -/
def idle (l : OwnerLedger σ) : OwnerCall → Option Ruling × OwnerLedger σ
  | .pause millis => (none, { l with now := l.now + millis })
  | _ => (some ⟨.pool, [], 0⟩, l)

/-- The rulings of a run, and the ledger after it. -/
def run (policy : Option OwnerPolicy) (ttl deadline : Duration) (out : Outside σ) :
    OwnerLedger σ → List OwnerCall → List (Option Ruling) × OwnerLedger σ
  | l, [] => ([], l)
  | l, call :: calls =>
    let (ruling, l) := match policy with
      | some p => l.step p ttl deadline out call
      | none => l.idle call
    let (rulings, l) := run policy ttl deadline out l calls
    (ruling :: rulings, l)

end OwnerLedger

/-! ## One resolution -/

section

variable {r : Resolver} {p : OwnerPolicy} {out : Outside σ} {ttl : Duration} {c : OwnerCache}
  {now : Nat} {id : ProcessId} {w : σ}

theorem decide_eq_rule (p : OwnerPolicy) (owner : String) :
    Resolver.decide p owner = OwnerLedger.rule p (some owner) := by
  simp [Resolver.decide, OwnerLedger.rule, OwnerPolicy.isOverridden]

/-- A policy sends only overridden owners elsewhere, and always to its subrouter. -/
theorem rule_eq_subrouter_iff {learnt : Option String} {host : Host} :
    OwnerLedger.rule p learnt = .subrouter host ↔
      ∃ owner, learnt = some owner ∧ p.isOverridden owner = true ∧ host = p.subrouter := by
  cases learnt with
  | none => simp [OwnerLedger.rule]
  | some owner =>
    rw [← decide_eq_rule, Resolver.decide]
    by_cases hover : p.isOverridden owner = true
    · simp [hover, @eq_comm _ host]
    · simp [hover]

theorem ownerInTime?_eq_some_iff {deadline : Duration} {reaction : RegistryReaction}
    {owner : String} :
    OwnerLedger.ownerInTime? deadline reaction = some owner ↔
      ∃ millis, reaction = .after millis (.ok (some owner)) ∧
        (Duration.ofMillis millis).nanos ≤ deadline.nanos := by
  constructor
  · intro h
    unfold OwnerLedger.ownerInTime? at h
    split at h
    · split at h
      · rename_i millis _ htime
        cases h
        exact ⟨millis, rfl, htime⟩
      · cases h
    · cases h
  · rintro ⟨millis, rfl, htime⟩
    exact if_pos htime

/-! A timer of some limit is a deadline at that limit, rounded up to whole milliseconds. -/

theorem ownerOf_within (limit : Duration) (reaction : RegistryReaction) :
    Resolver.ownerOf (reaction.within limit.timerMillis).1 =
      OwnerLedger.ownerInTime? limit.roundedUp reaction := by
  cases reaction with
  | never => rfl
  | after millis answer =>
    have htime : (Duration.ofMillis millis).nanos ≤ limit.roundedUp.nanos ↔
        millis ≤ limit.timerMillis := Duration.ofMillis_le_roundedUp_iff
    by_cases hle : millis ≤ limit.timerMillis
    · rcases answer with e | _ | owner <;>
        simp [Reaction.within, Resolver.ownerOf, OwnerLedger.ownerInTime?, htime, hle]
    · rcases answer with e | _ | owner <;>
        simp [Reaction.within, Resolver.ownerOf, OwnerLedger.ownerInTime?, htime, hle]

theorem within_snd_eq_waited (limit : Duration) (reaction : RegistryReaction) :
    (reaction.within limit.timerMillis).2 = OwnerLedger.waited limit.roundedUp reaction := by
  cases reaction with
  | never => exact (Duration.millis_roundedUp limit).symm
  | after millis answer =>
    rw [OwnerLedger.waited, Duration.millis_roundedUp]
    by_cases hle : millis ≤ limit.timerMillis
    · simp [Reaction.within, hle]
    · simp only [Reaction.within, hle, if_false]
      omega

/-- A process with a kept owner is decided at once. -/
theorem resolve_of_kept (out : Outside σ) (w : σ) (hp : r.policy = some p) {owner : String}
    (hget : (c.get now id).1 = some owner) :
    let a := r.resolve out now (.timed c) id w
    a.ruling = ⟨OwnerLedger.rule p (some owner), [], 0⟩ ∧ a.store = .timed c ∧ a.world = w := by
  have hc := OwnerCache.get_of_some hget
  simp only [Resolver.resolve, hp, OwnerStore.get, hget, hc, and_true]
  rw [Resolved.ruling, ← decide_eq_rule]
  exact congrArg (Ruling.mk _ · _) (Resolver.quiet_decideEffects p id owner).lookups

/-- A process without one is asked for once, and only an owner that comes in time is kept. -/
theorem resolve_of_not_kept (out : Outside σ) (w : σ) (hp : r.policy = some p)
    (hget : (c.get now id).1 = none) :
    let a := r.resolve out now (.timed c) id w
    let asked := out.owner id w
    a.ruling = ⟨OwnerLedger.rule p (OwnerLedger.ownerInTime? r.limit.roundedUp asked.1), [id],
      OwnerLedger.waited r.limit.roundedUp asked.1⟩ ∧
    a.store = .timed (match OwnerLedger.ownerInTime? r.limit.roundedUp asked.1 with
      | some owner =>
        (c.get now id).2.put (now + OwnerLedger.waited r.limit.roundedUp asked.1) id owner
      | none => (c.get now id).2) ∧
    a.world = asked.2 := by
  have howner := ownerOf_within r.limit (out.owner id w).1
  have hwaited := within_snd_eq_waited r.limit (out.owner id w).1
  simp only [Resolver.resolve, hp, OwnerStore.get, hget]
  cases hfound : OwnerLedger.ownerInTime? r.limit.roundedUp (out.owner id w).1 with
  | none =>
    rw [hfound] at howner
    simp only [howner, Resolved.ruling, hwaited, and_true]
    exact congrArg (Ruling.mk _ · _) (congrArg (id :: ·) (Resolver.quiet_lookupEffects ..).lookups)
  | some owner =>
    rw [hfound] at howner
    simp only [howner, Resolved.ruling, hwaited, decide_eq_rule, OwnerStore.put, and_true]
    refine congrArg (Ruling.mk _ · _) (congrArg (id :: ·) ?_)
    exact ((Resolver.quiet_lookupEffects ..).append (Resolver.quiet_decideEffects ..)).lookups

theorem resolveWithOwner_of_policy (hp : r.policy = some p) (now : Nat) (c : OwnerCache)
    (id : ProcessId) (owner : String) (w : σ) :
    let a := r.resolveWithOwner now (.timed c) id owner w
    a.ruling = ⟨OwnerLedger.rule p (some owner), [], 0⟩ ∧
    a.store = .timed (c.put now id owner) ∧ a.world = w := by
  simp only [Resolver.resolveWithOwner, hp, OwnerStore.put, and_true]
  rw [Resolved.ruling, ← decide_eq_rule]
  exact congrArg (Ruling.mk _ · _) (Resolver.quiet_decideEffects p id owner).lookups

end

/-! ## Whole runs -/

/-- A situation mirrors a ledger: same time, same outside, and a cache that keeps what is current
among the writes. -/
structure Mirrors (ttl : Duration) (s : Situation σ) (l : OwnerLedger σ) : Prop where
  now : s.now = l.now
  world : s.world = l.world
  kept : ∃ c, s.store = .timed c ∧ c.ttl = ttl ∧ c.Keeps l.now l.writes

section

variable {r : Resolver} {out : Outside σ} {ttl : Duration} {s : Situation σ} {l : OwnerLedger σ}

theorem mirrors_start (ttl : Duration) (now : Nat) (w : σ) :
    Mirrors ttl ⟨now, .timed (.empty ttl), w⟩ ⟨now, [], w⟩ :=
  ⟨rfl, rfl, .empty ttl, rfl, rfl, OwnerCache.keeps_empty ttl now⟩

/-- A cache yields the owner that is current in the ledger. -/
theorem get_eq_current? {c : OwnerCache} (httl : c.ttl = ttl) (h : c.Keeps l.now l.writes)
    (id : ProcessId) : (c.get l.now id).1 = l.current? ttl id := by
  rw [h.get_eq, OwnerLedger.current?]
  cases latestWrite? l.writes id with
  | none => rfl
  | some e =>
    by_cases hfresh : c.isFresh l.now e = true
    · rw [Option.filter_some_pos hfresh]
      rw [OwnerCache.isFresh_iff, httl] at hfresh
      simp [hfresh]
    · rw [Option.filter_some_neg (by simpa using hfresh)]
      rw [OwnerCache.isFresh_iff, httl] at hfresh
      simp [hfresh]

theorem Mirrors.pause (h : Mirrors ttl s l) (millis : Nat) :
    Mirrors ttl { s with now := s.now + millis } { l with now := l.now + millis } := by
  obtain ⟨hnow, hworld, c, hstore, httl, hkeeps⟩ := h
  exact ⟨by rw [hnow], hworld, c, hstore, httl, hkeeps.later (Nat.le_add_right _ _)⟩

/-- One resolution: the cache's answer, or the registry's, is that of the ledger. -/
theorem Mirrors.resolve {p : OwnerPolicy} (out : Outside σ) (hp : r.policy = some p)
    (h : Mirrors ttl s l) (id : ProcessId) :
    (r.step out s (.resolve id)).1 = (l.step p ttl r.limit.roundedUp out (.resolve id)).1 ∧
    Mirrors ttl (r.step out s (.resolve id)).2
      (l.step p ttl r.limit.roundedUp out (.resolve id)).2 := by
  obtain ⟨now, store, w⟩ := s
  obtain ⟨rfl, rfl, c, rfl, httl, hkeeps⟩ := h
  have hget := get_eq_current? httl hkeeps id
  simp only [Resolver.step, OwnerLedger.step, Resolved.situation]
  cases hcurrent : l.current? ttl id with
  | some owner =>
    obtain ⟨hruling, hstore, hworld⟩ :=
      resolve_of_kept out l.world hp (hget.trans hcurrent)
    have helapsed := congrArg Ruling.elapsed hruling
    refine ⟨congrArg some hruling, ?_, hworld, c, hstore, httl, hkeeps⟩
    exact congrArg (l.now + ·) helapsed
  | none =>
    obtain ⟨hruling, hstore, hworld⟩ :=
      resolve_of_not_kept out l.world hp (hget.trans hcurrent)
    have helapsed := congrArg Ruling.elapsed hruling
    have hlater := (hkeeps.get id).later
      (Nat.le_add_right l.now (OwnerLedger.waited r.limit.roundedUp (out.owner id l.world).1))
    refine ⟨congrArg some hruling, ?_⟩
    unfold OwnerLedger.learn
    cases hfound : OwnerLedger.ownerInTime? r.limit.roundedUp (out.owner id l.world).1 with
    | none =>
      rw [hfound] at hstore
      refine ⟨congrArg (l.now + ·) helapsed, hworld, _, hstore, ?_, hlater⟩
      rw [OwnerCache.ttl_get, httl]
    | some owner =>
      rw [hfound] at hstore
      refine ⟨congrArg (l.now + ·) helapsed, hworld, _, hstore, ?_, hlater.put id owner⟩
      rw [OwnerCache.ttl_put, OwnerCache.ttl_get, httl]

/-- One step of a run with a policy. -/
theorem Mirrors.step {p : OwnerPolicy} (out : Outside σ) (hp : r.policy = some p)
    (h : Mirrors ttl s l) (call : OwnerCall) :
    (r.step out s call).1 = (l.step p ttl r.limit.roundedUp out call).1 ∧
    Mirrors ttl (r.step out s call).2 (l.step p ttl r.limit.roundedUp out call).2 := by
  cases call with
  | resolve id => exact h.resolve out hp id
  | announce id owner =>
    obtain ⟨now, store, w⟩ := s
    obtain ⟨rfl, rfl, c, rfl, httl, hkeeps⟩ := h
    obtain ⟨hruling, hstore, hworld⟩ :=
      resolveWithOwner_of_policy hp l.now c id owner l.world
    have helapsed := congrArg Ruling.elapsed hruling
    refine ⟨congrArg some hruling, ?_, hworld, _, hstore, httl, hkeeps.put id owner⟩
    exact congrArg (l.now + ·) helapsed
  | pause millis => exact ⟨rfl, h.pause millis⟩

/-- One step of a run without a policy: nothing but the time changes. -/
theorem Mirrors.idle (out : Outside σ) (hp : r.policy = none) (h : Mirrors ttl s l)
    (call : OwnerCall) :
    (r.step out s call).1 = (l.idle call).1 ∧
    Mirrors ttl (r.step out s call).2 (l.idle call).2 := by
  cases call with
  | resolve id =>
    simp only [Resolver.step, Resolver.resolve, hp]
    exact ⟨rfl, h⟩
  | announce id owner =>
    simp only [Resolver.step, Resolver.resolveWithOwner, hp]
    exact ⟨rfl, h⟩
  | pause millis => exact ⟨rfl, h.pause millis⟩

/-- A whole run. -/
theorem Mirrors.run (r : Resolver) (out : Outside σ) (h : Mirrors ttl s l)
    (calls : List OwnerCall) :
    (r.run out s calls).1 = (OwnerLedger.run r.policy ttl r.limit.roundedUp out l calls).1 ∧
    Mirrors ttl (r.run out s calls).2
      (OwnerLedger.run r.policy ttl r.limit.roundedUp out l calls).2 := by
  induction calls generalizing s l with
  | nil => exact ⟨rfl, h⟩
  | cons call calls ih =>
    simp only [Resolver.run, OwnerLedger.run]
    cases hp : r.policy with
    | some p =>
      obtain ⟨hruling, hstep⟩ := h.step out hp call
      obtain ⟨hrulings, hrun⟩ := ih hstep
      rw [hp] at hrulings hrun
      exact ⟨by rw [hruling, hrulings], hrun⟩
    | none =>
      obtain ⟨hruling, hstep⟩ := h.idle out hp call
      obtain ⟨hrulings, hrun⟩ := ih hstep
      rw [hp] at hrulings hrun
      exact ⟨by rw [hruling, hrulings], hrun⟩

/-- Without a policy every resolution goes to the pool at once, and neither the store nor the
outside is touched. -/
theorem run_without_policy (out : Outside σ) (s : Situation σ) (hp : r.policy = none)
    (calls : List OwnerCall) :
    (∀ ruling, some ruling ∈ (r.run out s calls).1 → ruling = ⟨.pool, [], 0⟩) ∧
    (r.run out s calls).2.store = s.store ∧ (r.run out s calls).2.world = s.world := by
  induction calls generalizing s with
  | nil => simp [Resolver.run]
  | cons call calls ih =>
    have hstep : (∀ ruling, (r.step out s call).1 = some ruling → ruling = ⟨.pool, [], 0⟩) ∧
        (r.step out s call).2.store = s.store ∧ (r.step out s call).2.world = s.world := by
      cases call with
      | resolve id => simp [Resolver.step, Resolver.resolve, hp, Resolved.ruling,
          Resolved.situation, Effect.lookups]
      | announce id owner => simp [Resolver.step, Resolver.resolveWithOwner, hp, Resolved.ruling,
          Resolved.situation, Effect.lookups]
      | pause millis => simp [Resolver.step]
    obtain ⟨hruling, hstore, hworld⟩ := hstep
    obtain ⟨hrulings, hstore', hworld'⟩ := ih (r.step out s call).2
    simp only [Resolver.run, List.mem_cons]
    refine ⟨fun ruling hmem => ?_, hstore'.trans hstore, hworld'.trans hworld⟩
    rcases hmem with heq | hmem
    · exact hruling ruling heq.symm
    · exact hrulings ruling hmem

/-- **A resolver follows its ledger over every run.**  From an empty cache on, and whatever the
registry does, the rulings, the time and the outside are those of the ledger whose deadline is the
limit rounded up to whole milliseconds, and the cache yields the owners that are current in it.  An
entry is never anything but the latest write for its process; a question that brings no owner in
time leaves no entry for the process and adds none; and without a policy nothing is asked and
nothing is kept. -/
theorem Resolver.run_follows_ledger (r : Resolver) (out : Outside σ) (ttl : Duration) (now : Nat)
    (w : σ) (calls : List OwnerCall) :
    let s := r.run out ⟨now, .timed (.empty ttl), w⟩ calls
    let l := OwnerLedger.run r.policy ttl r.limit.roundedUp out ⟨now, [], w⟩ calls
    s.1 = l.1 ∧ s.2.now = l.2.now ∧ s.2.world = l.2.world ∧
    ∃ cache, s.2.store = .timed cache ∧
      (∀ id, (cache.get s.2.now id).1 = l.2.current? ttl id) ∧
      (∀ e ∈ cache.entries, latestWrite? l.2.writes e.id = some e) ∧
      (∀ p id, r.policy = some p → l.2.current? ttl id = none →
        OwnerLedger.ownerInTime? r.limit.roundedUp (out.owner id s.2.world).1 = none →
        (r.step out s.2 (.resolve id)).2.store =
          .timed { cache with entries := cache.entries.filter (·.id != id) }) ∧
      (r.policy = none → cache = .empty ttl ∧ s.2.world = w ∧
        ∀ ruling, some ruling ∈ s.1 → ruling = ⟨.pool, [], 0⟩) := by
  intro s l
  obtain ⟨hrulings, hnow, hworld, c, hstore, httl, hkeeps⟩ :=
    (mirrors_start ttl now w).run r out calls
  have hget : ∀ id, (c.get s.2.now id).1 = l.2.current? ttl id := by
    intro id
    rw [show s.2.now = l.2.now from hnow]
    exact get_eq_current? httl hkeeps id
  refine ⟨hrulings, hnow, hworld, c, hstore, hget, hkeeps.sound, fun p id hp hcurrent hlate => ?_,
    fun hp => ?_⟩
  · obtain ⟨-, hkept, -⟩ := resolve_of_not_kept out s.2.world hp
      ((hget id).trans hcurrent)
    rw [hlate] at hkept
    rw [← OwnerCache.get_of_none ((hget id).trans hcurrent), ← hkept]
    simp only [Resolver.step, Resolved.situation]
    rw [show s.2.store = .timed c from hstore]
  · obtain ⟨hpool, hkept, hsame⟩ := run_without_policy out
      ⟨now, .timed (.empty ttl), w⟩ hp calls
    refine ⟨?_, hsame, hpool⟩
    have : OwnerStore.timed c = .timed (.empty ttl) := hstore.symm.trans hkept
    cases this
    rfl

/-- With a limit of a millisecond and a half the timer goes off after two.  A registry that answers
then is late for a ledger with that limit, which uses the pool and asks again; the resolver uses the
owner and keeps it. -/
theorem Resolver.late_owner_kept :
    let p : ProcessId := ⟨"p", by rfl, by decide⟩
    let gate : Host := ⟨none, ⟨"http://s", false⟩⟩
    let r : Resolver := ⟨some ⟨gate, ⟨"http://r", false⟩, ["vip"]⟩, ⟨1500000⟩⟩
    let out : Outside Unit :=
      ⟨fun _ w => (.never, w), fun _ w => (.after 2 (.ok (some "vip")), w), fun _ => true⟩
    let ttl : Duration := .ofMillis 10
    let calls := [OwnerCall.resolve p, .resolve p]
    (Duration.parse "1.5ms").toOption = some r.limit ∧
    (r.run out ⟨0, .timed (.empty ttl), ()⟩ calls).1.map (·.map Ruling.decision) =
      [some (.subrouter gate), some (.subrouter gate)] ∧
    (OwnerLedger.run r.policy ttl r.limit out ⟨0, [], ()⟩ calls).1.map (·.map Ruling.decision) =
      [some .pool, some .pool] := by
  intro p gate r out ttl calls
  exact ⟨by decide +kernel, by decide, by decide⟩

/-- An owner written at 0 for ten milliseconds is current at 9 and no longer at 10. -/
example :
    let p : ProcessId := ⟨"p", by rfl, by decide⟩
    let gate : Host := ⟨none, ⟨"http://s", false⟩⟩
    let r : Resolver := ⟨some ⟨gate, ⟨"http://r", false⟩, ["o"]⟩, .ofMillis 5⟩
    let silent : Outside Unit := ⟨fun _ w => (.never, w), fun _ w => (.never, w), fun _ => true⟩
    (r.run silent ⟨0, .timed (.empty (.ofMillis 10)), ()⟩
      [.announce p "o", .pause 9, .resolve p, .pause 1, .resolve p]).1 =
    [some ⟨.subrouter gate, [], 0⟩, none, some ⟨.subrouter gate, [], 0⟩, none,
      some ⟨.pool, [p], 5⟩] := by
  decide

end

end AffinityGate
