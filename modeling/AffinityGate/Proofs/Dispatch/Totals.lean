import Mathlib.Algebra.Ring.Nat
import AffinityGate.Proofs.Dispatch.Deadline
import AffinityGate.Proofs.Dispatch.Rejected

/-!
# Totals

A gateway counts in three places that know nothing of each other: where an owner is resolved, where
a host is tried, and where an outcome is recorded.  `Balanced` is what the totals have to do with
each other, with the records and with the questions to the registry.  It adds up, every request is
balanced, and so `totals_reconcile` says that every course is.
-/

namespace AffinityGate

variable {σ : Type}

/-! ## Balance -/

/-- Whether a metric has a name and some labels, whatever its other labels. -/
def Metric.has (name : String) (labels : List (String × String)) (m : Metric) : Bool :=
  m.name == name && labels.all (m.labels.contains ·)

/-- Whether it takes a question to the registry to get a result. -/
def LookupResult.asked : LookupResult → Bool
  | .cacheHit | .dataItem => false
  | .fetched | .notFound | .failed | .timedOut => true

namespace Effect

/-- The total of a metric with some labels, over all values of its other labels. -/
def total (name : String) (labels : List (String × String)) (es : List Effect) : Nat :=
  (metrics es).countP (Metric.has name labels)

@[simp] theorem total_append (name : String) (labels : List (String × String))
    (es fs : List Effect) : total name labels (es ++ fs) = total name labels es
      + total name labels fs := by
  simp [total]

/-- The totals agree with the outcome records and with the questions to the registry, for a gateway
whose override is in force or not. -/
structure Balanced (enabled : Bool) (es : List Effect) : Prop where
  requests : total "unit_router_requests_total" [] es = (outcomes es).length
  durations : total "unit_router_request_duration_seconds" [] es = (outcomes es).length
  successes : total "unit_router_requests_total" [("outcome", "success")] es =
    (outcomes es).countP (·.success)
  reached : total "unit_router_attempts_total" [("outcome", "reached")] es =
    (outcomes es).countP (·.success)
  attempts : total "unit_router_attempts_total" [("outcome", "reached")] es
    + total "unit_router_attempts_total" [("outcome", "failed")] es =
      ((outcomes es).map (·.attempts)).sum
  resolved : total "unit_router_owner_lookups_total" [] es =
    if enabled then (outcomes es).length else 0
  asked : total "unit_router_owner_lookups_total" [("result", "fetched")] es
    + total "unit_router_owner_lookups_total" [("result", "not_found")] es
    + total "unit_router_owner_lookups_total" [("result", "error")] es
    + total "unit_router_owner_lookups_total" [("result", "timeout")] es = (lookups es).length

theorem balanced_nil (enabled : Bool) : Balanced enabled [] where
  requests := rfl
  durations := rfl
  successes := rfl
  reached := rfl
  attempts := rfl
  resolved := by cases enabled <;> rfl
  asked := rfl

theorem Balanced.append {enabled : Bool} {es fs : List Effect} (he : Balanced enabled es)
    (hf : Balanced enabled fs) : Balanced enabled (es ++ fs) where
  requests := by simp [he.requests, hf.requests]
  durations := by simp [he.durations, hf.durations]
  successes := by simp [he.successes, hf.successes]
  reached := by simp [he.reached, hf.reached]
  attempts := by
    have he := he.attempts
    have hf := hf.attempts
    simp only [total_append, outcomes_append, List.map_append, List.sum_append]
    omega
  resolved := by
    rw [total_append, outcomes_append, he.resolved, hf.resolved, List.length_append]
    cases enabled <;> rfl
  asked := by
    have he := he.asked
    have hf := hf.asked
    simp only [total_append, lookups_append, List.length_append]
    omega

/-- What a request leaves behind that is served: one record, and counts of the resolution of its
owner, if there was one, of the hosts that failed, of the one that was reached, and of the
record. -/
structure Served (es : List Effect) (o : Outcome) (result? : Option LookupResult) (failed : Nat) :
    Prop where
  metrics : metrics es = result?.toList.map .lookups ++ (List.replicate failed (.attempts false)
    ++ (if o.success then [.attempts true] else [])) ++ [.requests o.route o.success,
      .duration o.route]
  outcomes : outcomes es = [o]
  attempts : o.attempts = failed + if o.success then 1 else 0
  asked : (lookups es).length = if result?.any (·.asked) then 1 else 0

/-- The total over what a request leaves behind that is served. -/
theorem Served.total {es : List Effect} {o : Outcome} {result? : Option LookupResult} {failed : Nat}
    (h : Served es o result? failed) (name : String) (labels : List (String × String)) :
    let has := Metric.has name labels
    Effect.total name labels es = result?.toList.countP (fun x => has (.lookups x))
      + (if has (.attempts false) then failed else 0)
      + (if o.success && has (.attempts true) then 1 else 0)
      + (if has (.requests o.route o.success) then 1 else 0)
      + (if has (.duration o.route) then 1 else 0) := by
  intro has
  rw [Effect.total, h.metrics]
  simp only [List.countP_append, List.countP_map, List.countP_replicate, List.countP_cons,
    List.countP_nil, Function.comp_def, Nat.zero_add]
  cases o.success <;> simp [has] <;> omega

/-- What a request leaves behind that is served is balanced: each side of an equation is a total
over one record. -/
theorem Served.balanced {es : List Effect} {o : Outcome} {result? : Option LookupResult}
    {failed : Nat} (h : Served es o result? failed) : Balanced result?.isSome es where
  requests := by simp [h.total, h.outcomes, Metric.has, Metric.name, Metric.labels]
  durations := by simp [h.total, h.outcomes, Metric.has, Metric.name, Metric.labels]
  successes := by
    cases hs : o.success <;>
      simp [h.total, h.outcomes, Metric.has, Metric.name, Metric.labels, hs]
  reached := by
    cases hs : o.success <;>
      simp [h.total, h.outcomes, Metric.has, Metric.name, Metric.labels, hs]
  attempts := by
    rw [h.outcomes, List.map_singleton, List.sum_singleton, h.attempts, Nat.add_comm failed]
    cases hs : o.success <;> simp [h.total, Metric.has, Metric.name, Metric.labels, hs]
  resolved := by
    rw [h.outcomes, h.total]
    cases result? <;> simp [Metric.has, Metric.name, Metric.labels]
  asked := by
    rw [h.asked]
    cases result? with
    | none => simp [h.total, Metric.has, Metric.name, Metric.labels]
    | some x =>
      -- Of the four labels a result has its own and no other, or none if nobody was asked.
      cases x <;>
        simp [h.total, Metric.has, Metric.name, Metric.labels, LookupResult.name,
          LookupResult.asked]

end Effect

/-! ## What a request counts -/

namespace Failover

@[simp] theorem metrics_turn (out : Outside σ) (limit : Duration) (request : Buffered)
    (position : Nat) (host : Host) (w : σ) :
    Effect.metrics (turn out limit request position host w) = [] := by
  rw [turn, attempt_effects]
  exact Effect.metrics_map_sent _

@[simp] theorem metrics_reached (host : Host) (position status : Nat) :
    Effect.metrics (reached host position status) = [.attempts true] := rfl

@[simp] theorem metrics_unreachable (host : Host) (position remaining : Nat) (e : ClientError) :
    Effect.metrics (unreachable host position remaining e) = [.attempts false] := rfl

/-- A pass counts each host that it tries: those that fail, and then the one that answers. -/
theorem metrics_pass (out : Outside σ) (limit : Duration) (request : Buffered) (position : Nat)
    {candidates : List Host} (hne : candidates ≠ []) (w : σ) :
    let f := pass out limit request position candidates w
    ∃ failed, Effect.metrics f.effects = List.replicate failed (.attempts false)
        ++ (if f.result.isOk then [.attempts true] else []) ∧
      (∀ s, f.result = .ok s → s.attempts = position + failed + 1) ∧
      (∀ e, f.result = .error e → candidates.length = failed) := by
  -- The position is one more for each host that has failed, so the number that an answer comes with
  -- counts those before `candidates` as well.
  induction candidates generalizing position w with
  | nil => exact absurd rfl hne
  | cons host rest ih =>
    rcases attempt_cases out limit request host w with ⟨response, -, ha⟩ | ⟨cause, -, hf⟩
    · rw [pass_of_answers position rest ha]
      refine ⟨0, by simp [Except.isOk, Except.toBool], ?_, nofun⟩
      rintro _ ⟨⟩
      rfl
    · cases rest with
      | nil =>
        rw [pass_of_last_fails position hf]
        exact ⟨1, by simp [Except.isOk, Except.toBool], nofun, fun _ _ => rfl⟩
      | cons next rest =>
        rw [pass_of_fails position rest hf]
        obtain ⟨failed, hmetrics, hok, herror⟩ :=
          ih (position + 1) (by simp) (attempt out limit request host w).world
        refine ⟨failed + 1, ?_, fun s hs => ?_, fun e he => ?_⟩
        · simp [hmetrics, List.replicate_succ]
        · have := hok s hs
          omega
        · rw [List.length_cons, herror e he]

end Failover

namespace Resolver

/-- An answer of the registry, or its silence, counts one result, which takes a question. -/
theorem metrics_lookupEffects (limit : Duration) (id : ProcessId)
    (answer : Option (Except RegistryError (Option String))) :
    ∃ result : LookupResult, result.asked = true ∧
      Effect.metrics (lookupEffects limit id answer) = [.lookups result] := by
  unfold lookupEffects
  split
  · exact ⟨.fetched, rfl, rfl⟩
  · exact ⟨.notFound, rfl, rfl⟩
  · exact ⟨.failed, rfl, rfl⟩
  · exact ⟨.timedOut, rfl, rfl⟩

@[simp] theorem metrics_decideEffects (p : OwnerPolicy) (id : ProcessId) (owner : String) :
    Effect.metrics (decideEffects p id owner) = [] := by
  unfold decideEffects
  split <;> rfl

end Resolver

/-- A resolution counts one result if the override is in force, and none otherwise; the result tells
whether the registry was asked. -/
def Resolved.Counts (a : Resolved σ) (enabled asks : Bool) : Prop :=
  ∃ result? : Option LookupResult, Effect.metrics a.effects = result?.toList.map .lookups ∧
    result?.isSome = enabled ∧ result?.any (·.asked) = asks

namespace Resolver

theorem Resolution.counts {r : Resolver} {out : Outside σ} {now : Nat} {store : OwnerStore}
    {id : ProcessId} {w : σ} {a : Resolved σ} (h : r.Resolution out now store id w a) :
    a.Counts r.policy.isSome (r.policy.isSome && (store.get now id).1.isNone) := by
  cases h with
  | off hp =>
    rw [hp]
    exact ⟨none, rfl, rfl, rfl⟩
  | @kept p owner _ hp hget =>
    rw [hp, hget]
    refine ⟨some .cacheHit, ?_, rfl, rfl⟩
    exact congrArg (.lookups .cacheHit :: ·) (metrics_decideEffects p id owner)
  | @found p owner _ _ answer hp hget _ _ =>
    obtain ⟨result, hasked, hcounted⟩ := metrics_lookupEffects r.limit id answer
    rw [hp, hget]
    refine ⟨some result, ?_, rfl, hasked⟩
    rw [Effect.metrics_append, metrics_decideEffects, List.append_nil]
    exact hcounted
  | @missing _ _ _ answer hp hget _ _ =>
    obtain ⟨result, hasked, hcounted⟩ := metrics_lookupEffects r.limit id answer
    rw [hp, hget]
    exact ⟨some result, hcounted, rfl, hasked⟩

theorem counts_resolveWithOwner (r : Resolver) (now : Nat) (store : OwnerStore) (id : ProcessId)
    (owner : String) (w : σ) :
    (r.resolveWithOwner now store id owner w).Counts r.policy.isSome false := by
  unfold resolveWithOwner
  cases r.policy with
  | none => exact ⟨none, rfl, rfl, rfl⟩
  | some p =>
    refine ⟨some .dataItem, ?_, rfl, rfl⟩
    exact congrArg (.lookups .dataItem :: ·) (metrics_decideEffects p id owner)

end Resolver

namespace Dispatcher

theorem counts_decision (d : Dispatcher) (out : Outside σ) (s : Situation σ) (e : Extracted) :
    (d.decision out s e).Counts d.subrouterEnabled (d.asks s e) := by
  obtain ⟨id, owner?⟩ := e
  cases owner? with
  | some owner =>
    rw [asks_of_announced]
    exact Resolver.counts_resolveWithOwner ..
  | none =>
    rw [asks_of_not_announced]
    exact (Resolver.resolution_resolve ..).counts

@[simp] theorem metrics_note (span : Option String) (name value : String) :
    Effect.metrics (note span name value) = [] := by
  unfold note
  split <;> rfl

@[simp] theorem metrics_record (out : Outside σ) (o : Outcome) :
    Effect.metrics (record out o) = [.requests o.route o.success, .duration o.route] := by
  unfold record
  split <;> rfl

@[simp] theorem metrics_failureEvent (id : ProcessId) (route : Route)
    (result : Except FailoverError Dispatched) :
    Effect.metrics (failureEvent id route result) = [] := by
  unfold failureEvent
  split <;> rfl

/-- A request that is served counts what its resolution, its failover and its record count. -/
theorem metrics_serve (d : Dispatcher) (out : Outside σ) (span : Option String)
    (request : Http.Arrival) (body : Bytes) (e : Extracted) (now : Nat) (r : Resolved σ) :
    let route := r.decision.route
    let hosts := d.candidates e.processId r.decision
    let buffered := Buffered.make request.method (pathAndQuery request.uri) request.headers body
    let f := Failover.execute out d.attemptLimit d.strategy buffered hosts r.world
    let o := outcome e.processId route hosts f.result
    Effect.metrics (d.serve out span request body e now r).effects = Effect.metrics r.effects
      ++ Effect.metrics f.effects ++ [.requests o.route o.success, .duration o.route] := by
  have hevent (route hosts) : Effect.metrics [candidatesEvent e.processId route hosts] = [] := rfl
  simp only [serve, Effect.metrics_append, metrics_note, hevent, metrics_record,
    metrics_failureEvent, List.nil_append, List.append_nil]

/-- The record of a failover in proxy mode has as many attempts as were counted. -/
theorem metrics_proxy (out : Outside σ) (limit : Duration) (buffered : Buffered) (id : ProcessId)
    (route : Route) {hosts : List Host} (hne : hosts ≠ []) (w : σ) :
    let f := Failover.execute out limit .proxy buffered hosts w
    let o := outcome id route hosts f.result
    ∃ failed, Effect.metrics f.effects = List.replicate failed (.attempts false)
        ++ (if o.success then [.attempts true] else []) ∧
      o.attempts = failed + if o.success then 1 else 0 := by
  obtain ⟨failed, hmetrics, hok, herror⟩ := Failover.metrics_pass out limit buffered 0 hne w
  rw [Failover.execute, Failover.proxy]
  generalize Failover.pass out limit buffered 0 hosts w = f at hmetrics hok herror
  obtain ⟨result, effects, elapsed, world⟩ := f
  refine ⟨failed, ?_⟩
  cases result with
  | ok served =>
    have hattempts := hok served rfl
    rw [Nat.zero_add] at hattempts
    exact ⟨hmetrics, hattempts⟩
  | error e => exact ⟨hmetrics, herror e rfl⟩

/-- What a request leaves behind that names a process, in proxy mode. -/
theorem served_of_extracted {d : Dispatcher} (hproxy : d.strategy = .proxy) {request : Http.Arrival}
    {e : Extracted} (h : d.extracted? request = some e) (out : Outside σ) (span : Option String)
    (s : Situation σ) :
    ∃ o result? failed, result?.isSome = d.subrouterEnabled ∧
      Effect.Served (d.dispatch out span request s).effects o result? failed := by
  obtain ⟨body, -, hdispatch⟩ := dispatch_of_extracted h out span s
  obtain ⟨result?, hresolved, henabled, hasks⟩ := d.counts_decision out s e
  let r := d.decision out s e
  let buffered := Buffered.make request.method (pathAndQuery request.uri) request.headers body
  have houtcomes := d.outcomes_serve out span request body e s.now (d.outcomes_decision out s e)
  have hmetrics := d.metrics_serve out span request body e s.now r
  rw [hproxy] at houtcomes hmetrics
  obtain ⟨failed, hfailover, hattempts⟩ := metrics_proxy out d.attemptLimit buffered e.processId
    r.decision.route (d.candidates_ne_nil e.processId r.decision) r.world
  refine ⟨_, result?, failed, henabled, ?_, ?_, hattempts, ?_⟩
  · rw [hdispatch, hmetrics, hresolved, hfailover]
  · rw [hdispatch]
    exact houtcomes
  · rw [hdispatch, lookups_serve, (d.timely_decision out s e).asked, hasks]

/-- In proxy mode every request is balanced. -/
theorem balanced_dispatch {d : Dispatcher} (hproxy : d.strategy = .proxy) (out : Outside σ)
    (span : Option String) (request : Http.Arrival) (s : Situation σ) :
    Effect.Balanced d.subrouterEnabled (d.dispatch out span request s).effects := by
  cases htold : d.extracted? request with
  | none =>
    obtain ⟨cause, hrefused⟩ := dispatch_of_not_extracted htold out span s
    rw [hrefused]
    exact Effect.balanced_nil _
  | some e =>
    obtain ⟨o, result?, failed, henabled, hserved⟩ := served_of_extracted hproxy htold out span s
    exact henabled ▸ hserved.balanced

/-! ## Courses -/

/-- What a gateway does when something happens.  Only requests make it do anything. -/
def deeds (d : Dispatcher) (out : Outside σ) (s : Situation σ) : Happening → List Effect
  | .event (.request span request) => (d.dispatch out span request s).effects
  | .event (.pause _) | .sweep => []

/-- What a gateway does over a course of things. -/
def journal (d : Dispatcher) (out : Outside σ) : Situation σ → List Happening → List Effect
  | _, [] => []
  | s, h :: history => d.deeds out s h ++ d.journal out (d.undergo out s h) history

theorem balanced_deeds {d : Dispatcher} (hproxy : d.strategy = .proxy) (out : Outside σ)
    (s : Situation σ) (h : Happening) :
    Effect.Balanced d.subrouterEnabled (d.deeds out s h) := by
  cases h with
  | event event =>
    cases event with
    | request span request => exact balanced_dispatch hproxy out span request s
    | pause millis => exact Effect.balanced_nil _
  | sweep => exact Effect.balanced_nil _

/-- **Totals reconcile.**  In proxy mode, over every course of requests, pauses and sweeps, from any
situation and whatever the outside does, the sink's refusals included: as many requests are counted,
and as many durations sampled, as there are records; as many requests succeed as records say so and
as hosts are reached; the attempts counted are those of the records; and an owner is resolved for
each record if the override is in force and for none otherwise, where as many results are not from
the cache or from a spawn as questions are asked. -/
theorem totals_reconcile {d : Dispatcher} (hproxy : d.strategy = .proxy) (out : Outside σ)
    (s : Situation σ) (history : List Happening) :
    Effect.Balanced d.subrouterEnabled (d.journal out s history) := by
  induction history generalizing s with
  | nil => exact Effect.balanced_nil _
  | cons h history ih =>
    have hstep := balanced_deeds hproxy out s h
    exact hstep.append (ih (d.undergo out s h))

/-- An outside in which the host `b` refuses connections, the registry knows the owner of the
process `p` alone, and the sink refuses every record. -/
def knowing : Outside Unit :=
  { Failover.oneDown with
    owner := fun id w => (.after 3 (.ok (if id.text = "p" then some "vip" else none)), w)
    accepts := fun _ => false }

/-- A process is asked for and then known, another one is not found, and one request is rejected:
three records, two questions, and totals that agree with both. -/
theorem totals_of_three_requests :
    let history : List Happening := [.event (.request none (bodied "/state/p" [] none)),
      .event (.pause 2), .event (.request none (bodied "/state/p" [] none)),
      .event (.request none (bodied "/state/x" [] none)),
      .event (.request none (bodied "/state" [] none)), .sweep]
    let es := guarded.journal knowing ⟨0, .timed (.empty (.ofMillis 1000)), ()⟩ history
    guarded.strategy = .proxy ∧ Effect.Balanced true es ∧
      (Effect.outcomes es).map (fun o => (o.route, o.attempts, o.success)) =
        [(.subrouter, 1, true), (.subrouter, 1, true), (.pool, 2, true)] ∧
      (Effect.lookups es).map (·.text) = ["p", "x"] := by
  intro history es
  exact ⟨rfl, @totals_reconcile Unit guarded rfl knowing _ history, by decide +kernel,
    by decide +kernel⟩

end Dispatcher
end AffinityGate
