import AffinityGate.Proofs.Dispatch.Affinity
import AffinityGate.Proofs.Owner.Kept
import AffinityGate.Proofs.Process.Carrier

/-!
# Owners over the life of a gateway

Requests, pauses and sweeps come in any order.  `undergo_becomes` says what any of them can do to
the cache, and from it follow the facts about whole courses: a held owner stays held unless a spawn
brings another one along (`course_holds`), and entries are never ahead of the clock
(`Reachable.exists_cache`).  `goes_of_holds` is what a held owner means for a request.
-/

namespace AffinityGate

variable {σ : Type}

/-! ## What a request asks the registry -/

namespace Failover

/-- Serving asks the registry nothing and records no outcome. -/
theorem serving_pass (out : Outside σ) (limit : Duration) (request : Buffered)
    (position : Nat) (candidates : List Host) (w : σ) :
    Effect.Serving (pass out limit request position candidates w).effects := by
  induction candidates generalizing position w with
  | nil => exact ⟨rfl, rfl⟩
  | cons host rest ih =>
    have hturn : Effect.Serving (turn out limit request position host w) := by
      rw [turn, attempt_effects]
      exact ⟨Effect.lookups_map_sent _, Effect.outcomes_map_sent _⟩
    rcases attempt_cases out limit request host w with ⟨response, -, ha⟩ | ⟨cause, -, hf⟩
    · rw [pass_of_answers position rest ha]
      exact hturn.append ⟨rfl, rfl⟩
    · cases rest with
      | nil =>
        rw [pass_of_last_fails position hf]
        exact hturn.append ⟨rfl, rfl⟩
      | cons next rest =>
        rw [pass_of_fails position rest hf]
        exact (hturn.append ⟨rfl, rfl⟩).append (ih _ _)

theorem serving_execute (out : Outside σ) (limit : Duration) (strategy : Strategy)
    (request : Buffered) (candidates : List Host) (w : σ) :
    Effect.Serving (execute out limit strategy request candidates w).effects := by
  cases strategy with
  | proxy => exact serving_pass out limit request 0 candidates w
  | redirect =>
    cases candidates with
    | nil => exact ⟨rfl, rfl⟩
    | cons host rest =>
      simp only [execute, redirect]
      split
      · exact ⟨rfl, rfl⟩
      · exact ⟨rfl, rfl⟩

end Failover

/-- The owner that a request brings along, with its process. -/
def Extracted.announced? (e : Extracted) : Option (ProcessId × String) :=
  e.spawnOwner.map fun owner => (e.processId, owner)

namespace Dispatcher

theorem lookups_serve (d : Dispatcher) (out : Outside σ) (span : Option String)
    (request : Http.Arrival) (body : Bytes) (e : Extracted) (now : Nat) (r : Resolved σ) :
    Effect.lookups (d.serve out span request body e now r).effects = Effect.lookups r.effects := by
  simp only [serve, Effect.lookups_append, (quiet_note ..).lookups,
    (quiet_candidatesEvent ..).lookups, (quiet_record ..).lookups, (quiet_failureEvent ..).lookups,
    (Failover.serving_execute ..).lookups, List.nil_append, List.append_nil]

/-! ## Where a request goes -/

/-- What a request says about its process, if its body can be read and it names one. -/
def extracted? (d : Dispatcher) (request : Http.Arrival) : Option Extracted :=
  (request.body.buffer d.maxBodyBytes).toOption.bind fun body =>
    Extracted.ofRequest? d.unit request.uri body

theorem extracted?_eq_some_iff {d : Dispatcher} {request : Http.Arrival} {e : Extracted} :
    d.extracted? request = some e ↔ ∃ body, request.body.buffer d.maxBodyBytes = .ok body ∧
      Extracted.ofRequest? d.unit request.uri body = some e := by
  unfold extracted?
  cases request.body.buffer d.maxBodyBytes with
  | error cause => simp [Except.toOption]
  | ok body => simp [Except.toOption]

/-- A request that says something is served, by the decision for what it says. -/
theorem dispatch_of_extracted {d : Dispatcher} {request : Http.Arrival} {e : Extracted}
    (h : d.extracted? request = some e) (out : Outside σ) (span : Option String)
    (s : Situation σ) :
    ∃ body, request.body.buffer d.maxBodyBytes = .ok body ∧
      d.dispatch out span request s =
        d.serve out span request body e s.now (d.decision out s e) := by
  obtain ⟨body, hbody, htold⟩ := extracted?_eq_some_iff.mp h
  refine ⟨body, hbody, ?_⟩
  simp only [dispatch, hbody, htold]

/-- A request that says nothing is refused, and has no effects. -/
theorem dispatch_of_not_extracted {d : Dispatcher} {request : Http.Arrival}
    (h : d.extracted? request = none) (out : Outside σ) (span : Option String) (s : Situation σ) :
    ∃ cause, d.dispatch out span request s = ⟨.error cause, [], s⟩ := by
  unfold extracted? at h
  unfold dispatch
  cases hbody : request.body.buffer d.maxBodyBytes with
  | error cause => exact ⟨cause, rfl⟩
  | ok body =>
    rw [hbody] at h
    have htold : Extracted.ofRequest? d.unit request.uri body = none := h
    simp only [htold]
    exact ⟨_, rfl⟩

/-- Where a request goes that meets a situation: it is taken for a request of a process, the
decision is made after asking the registry as given, and the request keeps to the candidates that
the decision has for the process. -/
structure Goes (d : Dispatcher) (out : Outside σ) (span : Option String) (request : Http.Arrival)
    (s : Situation σ) (id : ProcessId) (decision : Decision) (asked : List ProcessId) : Prop where
  decided : ∃ e, d.extracted? request = some e ∧ e.processId = id ∧
    (d.decision out s e).decision = decision
  asked : Effect.lookups (d.dispatch out span request s).effects = asked
  keeps : ∃ body, request.body.buffer d.maxBodyBytes = .ok body ∧
    KeepsTo d.strategy (.make request.method (pathAndQuery request.uri) request.headers body)
      (d.candidates id decision) (d.dispatch out span request s).effects
      (d.dispatch out span request s).result.toOption

theorem goes_of_extracted {d : Dispatcher} {request : Http.Arrival} {e : Extracted}
    (h : d.extracted? request = some e) (out : Outside σ) (span : Option String)
    (s : Situation σ) :
    d.Goes out span request s e.processId (d.decision out s e).decision
      (Effect.lookups (d.decision out s e).effects) := by
  obtain ⟨body, hbody, hdispatch⟩ := dispatch_of_extracted h out span s
  refine ⟨⟨e, h, rfl, rfl⟩, ?_, body, hbody, ?_⟩
  · rw [hdispatch, lookups_serve]
  · rw [hdispatch]
    exact d.serve_keepsTo out span request body e s.now (d.decision_under out s e).aside

/-! ## What can happen -/

/-- Something that happens to a gateway or to its cache. -/
inductive Happening
  | event (event : Event)
  | sweep
  deriving DecidableEq

/-- The owner that a happening brings along, with its process. -/
def announced? (d : Dispatcher) : Happening → Option (ProcessId × String)
  | .event (.request _ request) => (d.extracted? request).bind Extracted.announced?
  | _ => none

/-- The situation after something has happened. -/
def undergo (d : Dispatcher) (out : Outside σ) (s : Situation σ) : Happening → Situation σ
  | .event event => d.meet out s event
  | .sweep => { s with store := s.store.purge s.now }

/-- The situation after a course of things. -/
def course (d : Dispatcher) (out : Outside σ) (s : Situation σ) (history : List Happening) :
    Situation σ :=
  history.foldl (d.undergo out) s

/-- A situation that a gateway can get into, from a start with an empty cache. -/
inductive Reachable (d : Dispatcher) (out : Outside σ) (ttl : Duration) : Situation σ → Prop
  | start (now : Nat) (w : σ) : Reachable d out ttl ⟨now, .timed (.empty ttl), w⟩
  | next {s : Situation σ} (h : Happening) :
    Reachable d out ttl s → Reachable d out ttl (d.undergo out s h)

variable {d : Dispatcher} {p : OwnerPolicy} {s : Situation σ} {c : OwnerCache}

/-- What a decision can do to the cache. -/
theorem decision_becomes (out : Outside σ) (e : Extracted) (hp : d.resolver.policy = some p)
    (hs : s.store = .timed c) :
    let r := d.decision out s e
    ∃ c', r.store = .timed c' ∧ c.Becomes s.now (s.now + r.elapsed) e.announced? c' := by
  obtain ⟨id, owner?⟩ := e
  cases owner? with
  | some owner =>
    have hdecision : d.decision out s ⟨id, some owner⟩ =
        d.resolver.resolveWithOwner s.now (.timed c) id owner s.world := by rw [decision, hs]
    rw [hdecision]
    exact Resolver.resolveWithOwner_becomes s.now c id owner s.world hp
  | none =>
    have hdecision : d.decision out s ⟨id, none⟩ =
        d.resolver.resolve out s.now (.timed c) id s.world := by rw [decision, hs]
    rw [hdecision]
    exact Resolver.resolve_becomes out s.now c id s.world hp

/-- What a request can do to the cache. -/
theorem dispatch_becomes (out : Outside σ) (span : Option String) (request : Http.Arrival)
    (hp : d.resolver.policy = some p) (hs : s.store = .timed c) :
    let s' := (d.dispatch out span request s).after
    s.now ≤ s'.now ∧ ∃ c', s'.store = .timed c' ∧
      c.Becomes s.now s'.now (d.announced? (.event (.request span request))) c' := by
  intro s'
  cases htold : d.extracted? request with
  | none =>
    obtain ⟨cause, hrefused⟩ := dispatch_of_not_extracted htold out span s
    have hafter : s' = s := by simp only [s', hrefused]
    rw [hafter]
    exact ⟨Nat.le_refl _, c, hs, .same⟩
  | some e =>
    obtain ⟨body, -, hdispatch⟩ := dispatch_of_extracted htold out span s
    obtain ⟨c', hstore, hbecomes⟩ := decision_becomes out e hp hs
    have hlater : s.now + (d.decision out s e).elapsed ≤ s'.now := by
      simp only [s', hdispatch, serve]
      exact Nat.le_add_right _ _
    have hannounced : d.announced? (.event (.request span request)) = e.announced? := by
      rw [announced?, htold, Option.bind_some]
    refine ⟨Nat.le_trans (Nat.le_add_right _ _) hlater, c', ?_, ?_⟩
    · simp only [s', hdispatch, serve, hstore]
    · rw [hannounced]
      exact hbecomes.mono hlater

/-- What anything can do to the cache. -/
theorem undergo_becomes (out : Outside σ) (h : Happening) (hp : d.resolver.policy = some p)
    (hs : s.store = .timed c) :
    let s' := d.undergo out s h
    s.now ≤ s'.now ∧ ∃ c', s'.store = .timed c' ∧
      c.Becomes s.now s'.now (d.announced? h) c' := by
  cases h with
  | event event =>
    cases event with
    | request span request => exact dispatch_becomes out span request hp hs
    | pause millis => exact ⟨Nat.le_add_right _ _, c, hs, .same⟩
  | sweep =>
    refine ⟨Nat.le_refl _, c.purge s.now, ?_, .purged⟩
    simp only [undergo, hs, OwnerStore.purge]

end Dispatcher

/-! ## Whole courses -/

/-- The store is a cache with the given time to live that holds the owner of an entry. -/
def Situation.Holds (s : Situation σ) (ttl : Duration) (e : CacheEntry) : Prop :=
  ∃ c, s.store = .timed c ∧ c.ttl = ttl ∧ c.Holds s.now e

/-- What is held and fresh is yielded. -/
theorem Situation.Holds.get_eq {s : Situation σ} {ttl : Duration} {e : CacheEntry}
    (h : s.Holds ttl e) (hfresh : (Duration.ofMillis (s.now - e.written)).nanos < ttl.nanos) :
    (s.store.get s.now e.id).1 = some e.owner := by
  obtain ⟨c, hs, rfl, hc⟩ := h
  rw [hs]
  exact hc.get_eq ((OwnerCache.isFresh_iff c s.now e).mpr hfresh)

namespace Dispatcher

variable {d : Dispatcher} {p : OwnerPolicy} {s : Situation σ} {ttl : Duration} {e : CacheEntry}

theorem undergo_holds (out : Outside σ) (hp : d.resolver.policy = some p) (hs : s.Holds ttl e)
    {h : Happening} (hsame : ∀ owner, d.announced? h = some (e.id, owner) → owner = e.owner) :
    (d.undergo out s h).Holds ttl e := by
  obtain ⟨c, hstore, httl, hc⟩ := hs
  obtain ⟨hle, c', hstore', hbecomes⟩ := undergo_becomes out h hp hstore
  exact ⟨c', hstore', hbecomes.ttl_eq.trans httl, hbecomes.holds hle hc hsame⟩

/-- A held owner stays held over any course in which no other owner is announced for its process. -/
theorem course_holds (out : Outside σ) (hp : d.resolver.policy = some p) (hs : s.Holds ttl e)
    (history : List Happening)
    (hsame : ∀ h ∈ history, ∀ owner, d.announced? h = some (e.id, owner) → owner = e.owner) :
    (d.course out s history).Holds ttl e := by
  induction history generalizing s with
  | nil => exact hs
  | cons h history ih =>
    have hstep := undergo_holds out hp hs (hsame h (by simp))
    exact ih hstep fun h' hmem => hsame h' (by simp [hmem])

theorem Reachable.exists_cache {out : Outside σ} (hp : d.resolver.policy = some p)
    (h : d.Reachable out ttl s) :
    ∃ c, s.store = .timed c ∧ c.ttl = ttl ∧ c.InPast s.now := by
  induction h with
  | start now w => exact ⟨.empty ttl, rfl, rfl, by simp [OwnerCache.InPast, OwnerCache.empty]⟩
  | next h _ ih =>
    obtain ⟨c, hstore, httl, hpast⟩ := ih
    obtain ⟨hle, c', hstore', hbecomes⟩ := undergo_becomes out h hp hstore
    exact ⟨c', hstore', hbecomes.ttl_eq.trans httl, hbecomes.inPast hle hpast⟩

theorem Reachable.course {out : Outside σ} (h : d.Reachable out ttl s) (history : List Happening) :
    d.Reachable out ttl (d.course out s history) := by
  induction history generalizing s with
  | nil => exact h
  | cons happening history ih => exact ih (h.next happening)

/-- In a situation that can be reached, the owner of a cached entry is held. -/
theorem Reachable.holds {out : Outside σ} (hp : d.resolver.policy = some p)
    (h : d.Reachable out ttl s) (he : s.store.find? e.id = some e) : s.Holds ttl e := by
  obtain ⟨c, hstore, httl, hpast⟩ := h.exists_cache hp
  rw [hstore] at he
  exact ⟨c, hstore, httl, OwnerCache.holds_of_find? hpast he⟩

/-- Where a request goes whose process has a known owner. -/
theorem goes_of_ruling (out : Outside σ) (span : Option String) {request : Http.Arrival}
    {x : Extracted} {owner : String} (htold : d.extracted? request = some x)
    (hruling : (d.decision out s x).ruling = ⟨OwnerLedger.rule p (some owner), [], 0⟩) :
    d.Goes out span request s x.processId (Resolver.decide p owner) [] := by
  have hgoes := goes_of_extracted htold out span s
  have hside : (d.decision out s x).decision = Resolver.decide p owner := by
    rw [decide_eq_rule]
    exact congrArg Ruling.decision hruling
  have hasked : Effect.lookups (d.decision out s x).effects = [] := congrArg Ruling.asked hruling
  rw [hside, hasked] at hgoes
  exact hgoes

/-- Requests for a process with a held owner follow it, and the registry is not asked. -/
theorem goes_of_holds (out : Outside σ) (span : Option String) {request : Http.Arrival}
    (hp : d.resolver.policy = some p) (hs : s.Holds ttl e)
    (hfresh : (Duration.ofMillis (s.now - e.written)).nanos < ttl.nanos)
    (htold : d.extracted? request = some ⟨e.id, none⟩) :
    d.Goes out span request s e.id (Resolver.decide p e.owner) [] := by
  have hget := hs.get_eq hfresh
  obtain ⟨c, hstore, -, -⟩ := hs
  rw [hstore] at hget
  refine goes_of_ruling out span htold ?_
  rw [decision, hstore]
  exact (resolve_of_kept out s.world hp hget).1

/-- A request that brings an owner along follows it, the registry is not asked, and the owner is
held from then on. -/
theorem goes_of_announced (out : Outside σ) (span : Option String) {request : Http.Arrival}
    {id : ProcessId} {owner : String} {c : OwnerCache} (hp : d.resolver.policy = some p)
    (hs : s.store = .timed c) (htold : d.extracted? request = some ⟨id, some owner⟩) :
    d.Goes out span request s id (Resolver.decide p owner) [] ∧
      (d.dispatch out span request s).after.Holds c.ttl ⟨id, owner, s.now⟩ := by
  obtain ⟨hruling, hstore, -⟩ := resolveWithOwner_of_policy hp s.now c id owner s.world
  have hdecision : d.decision out s ⟨id, some owner⟩ =
      d.resolver.resolveWithOwner s.now (.timed c) id owner s.world := by rw [decision, hs]
  constructor
  · refine goes_of_ruling out span htold ?_
    rw [hdecision]
    exact hruling
  · obtain ⟨body, -, hdispatch⟩ := dispatch_of_extracted htold out span s
    have hle := (dispatch_becomes out span request hp hs).1
    refine ⟨c.put s.now id owner, ?_, rfl, (c.holds_put s.now id owner).later hle⟩
    rw [hdispatch, serve, hdecision]
    exact hstore

end Dispatcher
end AffinityGate
