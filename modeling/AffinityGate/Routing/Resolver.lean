import AffinityGate.Routing.Failover
import AffinityGate.Routing.OwnerCache
import AffinityGate.Routing.Policy

/-!
# Pool or subrouter

The owner of a process decides where its requests go.  It is taken from the request that starts the
process, from the cache, or from the registry, which gets a limited time to answer; without an
owner the pool is used.
-/

namespace AffinityGate

/-- Where the requests of a process go. -/
inductive Decision
  | pool
  | subrouter (host : Host)
  deriving DecidableEq

namespace Decision

/-- The host outside the pool, if that is where requests go. -/
def target? : Decision → Option Host
  | .pool => none
  | .subrouter h => some h

/-- The route of a decision. -/
def route : Decision → Route
  | .pool => .pool
  | .subrouter _ => .subrouter

end Decision

/-- How owners are resolved: the override, if there is one, and the limit on a lookup. -/
structure Resolver where
  policy : Option OwnerPolicy
  limit : Duration
  deriving DecidableEq

/-- A decision with what it took, and the owners kept after it. -/
structure Resolved (σ : Type) where
  decision : Decision
  effects : List Effect
  elapsed : Nat
  store : OwnerStore
  world : σ

namespace Resolver

variable {σ : Type}

/-- The decision for a known owner. -/
def decide (p : OwnerPolicy) (owner : String) : Decision :=
  if p.isOverridden owner then .subrouter p.subrouter else .pool

/-- The trace of a decision for a known owner. -/
def decideEffects (p : OwnerPolicy) (id : ProcessId) (owner : String) : List Effect :=
  if p.isOverridden owner then
    [.event .debug "owner routed to subrouter" [("process_id", id.text), ("owner", owner)]]
  else []

/-- What the registry's answer, if it came in time, says and leaves in the trace. -/
def lookupEffects (limit : Duration) (id : ProcessId) :
    Option (Except RegistryError (Option String)) → List Effect
  | some (.ok (some _)) => [.counted (.lookups .fetched)]
  | some (.ok none) =>
    [.counted (.lookups .notFound),
     .event .debug "owner not found in registry" [("process_id", id.text)]]
  | some (.error e) =>
    [.counted (.lookups .failed),
     .event .warn "owner lookup failed; using pool routing"
       [("process_id", id.text), ("error", e.message)]]
  | none =>
    [.counted (.lookups .timedOut),
     .event .warn "owner lookup timed out; using pool routing"
       [("process_id", id.text), ("timeout", limit.decimal)]]

/-- The owner in the registry's answer. -/
def ownerOf : Option (Except RegistryError (Option String)) → Option String
  | some (.ok owner) => owner
  | _ => none

/-- The decision for a process: by its cached owner, else by the registry's answer, which is kept
only if it names an owner. -/
def resolve (r : Resolver) (out : Outside σ) (now : Nat) (store : OwnerStore) (id : ProcessId)
    (w : σ) : Resolved σ :=
  match r.policy with
  | none => ⟨.pool, [], 0, store, w⟩
  | some p =>
    match store.get now id with
    | (some owner, store) =>
      ⟨decide p owner, .counted (.lookups .cacheHit) :: decideEffects p id owner, 0, store, w⟩
    | (none, store) =>
      let (reaction, w) := out.owner id w
      let (answer, millis) := reaction.within r.limit.timerMillis
      let effects := .asked id :: lookupEffects r.limit id answer
      match ownerOf answer with
      | some owner =>
        ⟨decide p owner, effects ++ decideEffects p id owner, millis,
          store.put (now + millis) id owner, w⟩
      | none => ⟨.pool, effects, millis, store, w⟩

/-- The decision for a process whose owner the request brings along; the owner is kept. -/
def resolveWithOwner (r : Resolver) (now : Nat) (store : OwnerStore) (id : ProcessId)
    (owner : String) (w : σ) : Resolved σ :=
  match r.policy with
  | none => ⟨.pool, [], 0, store, w⟩
  | some p =>
    ⟨decide p owner, .counted (.lookups .dataItem) :: decideEffects p id owner, 0,
      store.put now id owner, w⟩

end Resolver
end AffinityGate
