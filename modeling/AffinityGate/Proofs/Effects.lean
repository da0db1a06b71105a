import AffinityGate.Routing.Dispatch

/-!
# Views of effects

The effects of a gateway are one list; what hosts, the registry and a reader of the trace see of
them are views, which respect concatenation.  `Effect.Aside` singles out what no host sees,
`Effect.Quiet` what the registry does not see either, and `Effect.Serving` what neither the registry
nor the outcome sink sees.  `Resolver.Resolution` lists what a resolution can come to, with its
effects, so that what is said of resolutions is said case by case.
-/

namespace AffinityGate

namespace Effect

/-- The URL of the host that an effect begins to try, if it is the span of an attempt. -/
def attempted? : Effect → Option String
  | .traced (.span "host_attempt" fields) =>
    (fields.find? fun f => f.1 == "host.url").map fun f => f.2
  | _ => none

/-- The URLs of the hosts that were tried, in order. -/
def tried (es : List Effect) : List String :=
  es.filterMap attempted?

@[simp] theorem requests_append (es fs : List Effect) :
    requests (es ++ fs) = requests es ++ requests fs := by
  simp [requests]

@[simp] theorem lookups_append (es fs : List Effect) :
    lookups (es ++ fs) = lookups es ++ lookups fs := by
  simp [lookups]

@[simp] theorem outcomes_append (es fs : List Effect) :
    outcomes (es ++ fs) = outcomes es ++ outcomes fs := by
  simp [outcomes]

@[simp] theorem metrics_append (es fs : List Effect) :
    metrics (es ++ fs) = metrics es ++ metrics fs := by
  simp [metrics]

@[simp] theorem tried_append (es fs : List Effect) : tried (es ++ fs) = tried es ++ tried fs := by
  simp [tried]

@[simp] theorem requests_map_sent (rs : List Http.Request) : requests (rs.map .sent) = rs := by
  rw [requests, List.filterMap_map]
  exact List.filterMap_some

@[simp] theorem lookups_map_sent (rs : List Http.Request) : lookups (rs.map .sent) = [] := by
  simp [lookups, List.filterMap_map]

@[simp] theorem outcomes_map_sent (rs : List Http.Request) : outcomes (rs.map .sent) = [] := by
  simp [outcomes, List.filterMap_map]

@[simp] theorem metrics_map_sent (rs : List Http.Request) : metrics (rs.map .sent) = [] := by
  simp [metrics, List.filterMap_map]

@[simp] theorem tried_map_sent (rs : List Http.Request) : tried (rs.map .sent) = [] := by
  simp [tried, List.filterMap_map, Function.comp_def, attempted?]

/-! ## Effects that reach no host -/

/-- Effects among which no host is tried and nothing is handed to the client port. -/
structure Aside (es : List Effect) : Prop where
  requests : requests es = []
  tried : tried es = []

/-- Effects among which the registry is not asked and no outcome is recorded. -/
structure Serving (es : List Effect) : Prop where
  lookups : lookups es = []
  outcomes : outcomes es = []

/-- Effects among which the registry is not asked either. -/
structure Quiet (es : List Effect) : Prop extends Aside es where
  lookups : lookups es = []

theorem Aside.append {es fs : List Effect} (he : Aside es) (hf : Aside fs) : Aside (es ++ fs) where
  requests := by rw [requests_append, he.requests, hf.requests, List.nil_append]
  tried := by rw [tried_append, he.tried, hf.tried, List.nil_append]

theorem Serving.append {es fs : List Effect} (he : Serving es) (hf : Serving fs) :
    Serving (es ++ fs) where
  lookups := by rw [lookups_append, he.lookups, hf.lookups, List.nil_append]
  outcomes := by rw [outcomes_append, he.outcomes, hf.outcomes, List.nil_append]

theorem Quiet.append {es fs : List Effect} (he : Quiet es) (hf : Quiet fs) : Quiet (es ++ fs) where
  toAside := he.toAside.append hf.toAside
  lookups := by rw [lookups_append, he.lookups, hf.lookups, List.nil_append]

theorem Aside.cons {e : Effect} {es : List Effect} (he : Aside [e]) (hes : Aside es) :
    Aside (e :: es) :=
  he.append hes

theorem aside_asked (id : ProcessId) : Aside [.asked id] :=
  ⟨rfl, rfl⟩

theorem quiet_nil : Quiet [] :=
  ⟨⟨rfl, rfl⟩, rfl⟩

end Effect

open Effect (Quiet)

theorem Resolver.quiet_decideEffects (p : OwnerPolicy) (id : ProcessId) (owner : String) :
    Quiet (decideEffects p id owner) := by
  unfold decideEffects
  split
  · exact ⟨⟨rfl, rfl⟩, rfl⟩
  · exact Effect.quiet_nil

theorem Resolver.quiet_lookupEffects (limit : Duration) (id : ProcessId)
    (answer : Option (Except RegistryError (Option String))) :
    Quiet (lookupEffects limit id answer) := by
  unfold lookupEffects
  split <;> exact ⟨⟨rfl, rfl⟩, rfl⟩

@[simp] theorem Resolver.outcomes_decideEffects (p : OwnerPolicy) (id : ProcessId)
    (owner : String) : Effect.outcomes (decideEffects p id owner) = [] := by
  unfold decideEffects
  split
  · rfl
  · rfl

@[simp] theorem Resolver.outcomes_lookupEffects (limit : Duration) (id : ProcessId)
    (answer : Option (Except RegistryError (Option String))) :
    Effect.outcomes (lookupEffects limit id answer) = [] := by
  unfold lookupEffects
  split <;> rfl

/-! ## How a resolution goes -/

namespace Resolver

/-- What a resolution comes to: without an override nothing is done; else the owner is kept already,
or the registry is asked, and what it replies in time has an owner or has none. -/
inductive Resolution {σ : Type} (r : Resolver) (out : Outside σ) (now : Nat) (store : OwnerStore)
    (id : ProcessId) (w : σ) : Resolved σ → Prop
  | off : r.policy = none → Resolution r out now store id w ⟨.pool, [], 0, store, w⟩
  | kept {p : OwnerPolicy} {owner : String} {store' : OwnerStore} : r.policy = some p →
    store.get now id = (some owner, store') →
    Resolution r out now store id w
      ⟨decide p owner, .counted (.lookups .cacheHit) :: decideEffects p id owner, 0, store', w⟩
  | found {p : OwnerPolicy} {owner : String} {store' : OwnerStore} {millis : Nat}
    {answer : Option (Except RegistryError (Option String))} : r.policy = some p →
    store.get now id = (none, store') →
    (out.owner id w).1.within r.limit.timerMillis = (answer, millis) → ownerOf answer = some owner →
    Resolution r out now store id w
      ⟨decide p owner, .asked id :: lookupEffects r.limit id answer ++ decideEffects p id owner,
        millis, store'.put (now + millis) id owner, (out.owner id w).2⟩
  | missing {p : OwnerPolicy} {store' : OwnerStore} {millis : Nat}
    {answer : Option (Except RegistryError (Option String))} : r.policy = some p →
    store.get now id = (none, store') →
    (out.owner id w).1.within r.limit.timerMillis = (answer, millis) → ownerOf answer = none →
    Resolution r out now store id w
      ⟨.pool, .asked id :: lookupEffects r.limit id answer, millis, store', (out.owner id w).2⟩

theorem resolution_resolve {σ : Type} (r : Resolver) (out : Outside σ) (now : Nat)
    (store : OwnerStore) (id : ProcessId) (w : σ) :
    r.Resolution out now store id w (r.resolve out now store id w) := by
  unfold resolve
  cases hp : r.policy with
  | none => exact .off hp
  | some p =>
    simp only
    split
    · rename_i owner store' hget
      exact .kept hp hget
    · rename_i store' hget
      split
      · rename_i owner howner
        exact .found hp hget rfl howner
      · rename_i hnone
        exact .missing hp hget rfl hnone

end Resolver

namespace Dispatcher

theorem quiet_note (span : Option String) (name value : String) :
    Quiet (note span name value) := by
  unfold note
  split
  · exact ⟨⟨rfl, rfl⟩, rfl⟩
  · exact Effect.quiet_nil

@[simp] theorem outcomes_note (span : Option String) (name value : String) :
    Effect.outcomes (note span name value) = [] := by
  unfold note
  split
  · rfl
  · rfl

theorem quiet_candidatesEvent (id : ProcessId) (route : Route) (hosts : List Host) :
    Quiet [candidatesEvent id route hosts] :=
  ⟨⟨rfl, rfl⟩, rfl⟩

theorem quiet_record {σ : Type} (out : Outside σ) (o : Outcome) : Quiet (record out o) := by
  unfold record
  split
  · exact ⟨⟨rfl, rfl⟩, rfl⟩
  · exact ⟨⟨rfl, rfl⟩, rfl⟩

/-- A recorded outcome is recorded once, whether or not the sink accepts it. -/
@[simp] theorem outcomes_record {σ : Type} (out : Outside σ) (o : Outcome) :
    Effect.outcomes (record out o) = [o] := by
  unfold record
  split
  · rfl
  · rfl

theorem quiet_failureEvent (id : ProcessId) (route : Route)
    (result : Except FailoverError Dispatched) : Quiet (failureEvent id route result) := by
  unfold failureEvent
  split
  · exact Effect.quiet_nil
  · exact ⟨⟨rfl, rfl⟩, rfl⟩

@[simp] theorem outcomes_failureEvent (id : ProcessId) (route : Route)
    (result : Except FailoverError Dispatched) :
    Effect.outcomes (failureEvent id route result) = [] := by
  unfold failureEvent
  split
  · rfl
  · rfl

end Dispatcher
end AffinityGate
