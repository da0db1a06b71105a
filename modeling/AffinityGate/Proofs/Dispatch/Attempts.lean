import AffinityGate.Proofs.Dispatch.Kept

/-!
# Recorded attempts

An outcome record says how many hosts were contacted for a request.  `recorded_attempts` compares
this number with what was handed to the client port: they agree in proxy mode exactly if the request
can be addressed at every host that was tried, and in redirect mode exactly if the redirection
succeeded.  `attempts_without_contact` is a record of one attempt where no host was contacted.
-/

namespace AffinityGate

variable {σ : Type}

/-- As many requests are handed to the client port as hosts were tried exactly if the request can be
addressed at each of them. -/
theorem Failover.Tried.length_eq_iff {request : Buffered} {hosts : List Host} {es : List Effect}
    (h : Tried request hosts es) :
    hosts.length = (Effect.requests es).length ↔
      ∀ host ∈ hosts, ∃ outgoing, request.addressed host = .ok outgoing := by
  rw [h.1, eq_comm, List.filterMap_length_eq_length]
  refine forall₂_congr fun host _ => ?_
  rw [Option.isSome_iff_exists]
  exact exists_congr fun outgoing => Buffered.outgoing?_eq_some_iff

namespace Resolver

theorem Resolution.outcomes {r : Resolver} {out : Outside σ} {now : Nat} {store : OwnerStore}
    {id : ProcessId} {w : σ} {a : Resolved σ} (h : r.Resolution out now store id w a) :
    Effect.outcomes a.effects = [] := by
  have hasked (answer) : Effect.outcomes (.asked id :: lookupEffects r.limit id answer) = [] :=
    outcomes_lookupEffects r.limit id answer
  cases h with
  | off _ => rfl
  | kept _ _ => exact outcomes_decideEffects _ id _
  | found _ _ _ _ =>
    rw [Effect.outcomes_append, hasked, outcomes_decideEffects]
    rfl
  | missing _ _ _ _ => exact hasked _

theorem outcomes_resolveWithOwner (r : Resolver) (now : Nat) (store : OwnerStore)
    (id : ProcessId) (owner : String) (w : σ) :
    Effect.outcomes (r.resolveWithOwner now store id owner w).effects = [] := by
  unfold resolveWithOwner
  cases r.policy with
  | none => rfl
  | some p => exact outcomes_decideEffects p id owner

end Resolver

namespace Dispatcher

theorem outcomes_decision (d : Dispatcher) (out : Outside σ) (s : Situation σ) (e : Extracted) :
    Effect.outcomes (d.decision out s e).effects = [] := by
  unfold decision
  split
  · exact Resolver.outcomes_resolveWithOwner ..
  · exact (Resolver.resolution_resolve ..).outcomes

/-- A request that is served leaves one record, of its failover. -/
theorem outcomes_serve (d : Dispatcher) (out : Outside σ) (span : Option String)
    (request : Http.Arrival) (body : Bytes) (e : Extracted) (now : Nat) {r : Resolved σ}
    (hr : Effect.outcomes r.effects = []) :
    let hosts := d.candidates e.processId r.decision
    let buffered := Buffered.make request.method (pathAndQuery request.uri) request.headers body
    Effect.outcomes (d.serve out span request body e now r).effects =
      [outcome e.processId r.decision.route hosts
        (Failover.execute out d.attemptLimit d.strategy buffered hosts r.world).result] := by
  have hevent (hosts) : Effect.outcomes
      [candidatesEvent e.processId r.decision.route hosts] = [] := rfl
  simp only [serve, Effect.outcomes_append, outcomes_note, hr, hevent,
    (Failover.serving_execute ..).outcomes, outcomes_record, outcomes_failureEvent,
    List.nil_append, List.append_nil]

theorem attempts_outcome (id : ProcessId) (route : Route) (hosts : List Host)
    (result : Except FailoverError Dispatched) :
    (outcome id route hosts result).attempts = Failover.attempts hosts result := by
  cases result with
  | ok s => rfl
  | error e => rfl

/-- Of a redirection no attempts are recorded exactly if it succeeded. -/
theorem attempts_of_redirect (id : ProcessId) (route : Route) (buffered : Buffered)
    {hosts : List Host} (hne : hosts ≠ []) (w : σ) :
    let o := outcome id route hosts (Failover.redirect buffered hosts w).result
    o.attempts = 0 ↔ o.success = true := by
  obtain ⟨host, rest, rfl⟩ := List.exists_cons_of_ne_nil hne
  simp only [Failover.redirect]
  split
  · simp [outcome]
  · simp [outcome]

/-- **Recorded attempts and contacted hosts.**  A dispatch records at most one outcome.  In redirect
mode nothing is handed to the client port, and the record agrees with that exactly if the
redirection succeeded.  In proxy mode the record counts the hosts that were tried, which agrees with
the requests that were handed to the client port exactly if the request can be addressed at each of
these hosts. -/
theorem recorded_attempts (d : Dispatcher) (out : Outside σ) (span : Option String)
    (request : Http.Arrival) (s : Situation σ) {o : Outcome}
    (ho : o ∈ Effect.outcomes (d.dispatch out span request s).effects) :
    let effects := (d.dispatch out span request s).effects
    let sent := Effect.requests effects
    Effect.outcomes effects = [o] ∧
    (d.strategy = .redirect → sent = [] ∧ (o.attempts = sent.length ↔ o.success = true)) ∧
    (d.strategy = .proxy → ∃ body tried, request.body.buffer d.maxBodyBytes = .ok body ∧
      let buffered := Buffered.make request.method (pathAndQuery request.uri) request.headers body
      Failover.Tried buffered tried effects ∧ o.attempts = tried.length ∧
        (o.attempts = sent.length ↔
          ∀ host ∈ tried, ∃ outgoing, buffered.addressed host = .ok outgoing)) := by
  cases htold : d.extracted? request with
  | none =>
    obtain ⟨cause, hrefused⟩ := dispatch_of_not_extracted htold out span s
    rw [hrefused] at ho
    cases ho
  | some e =>
    obtain ⟨body, hbody, hdispatch⟩ := dispatch_of_extracted htold out span s
    rw [hdispatch] at ho ⊢
    let r := d.decision out s e
    let hosts := d.candidates e.processId r.decision
    let buffered := Buffered.make request.method (pathAndQuery request.uri) request.headers body
    have hne : hosts ≠ [] := d.candidates_ne_nil _ _
    have houtcomes := d.outcomes_serve out span request body e s.now (d.outcomes_decision out s e)
    obtain ⟨before, after, hbefore, hafter, heffects⟩ :=
      d.serve_effects out span request body e s.now (d.decision_under out s e).aside
    rw [houtcomes] at ho
    obtain rfl := List.mem_singleton.mp ho
    refine ⟨houtcomes, fun hredirect => ?_, fun hproxy => ?_⟩
    · rw [hredirect] at heffects ⊢
      have htried : Failover.Tried buffered [] (Failover.redirect buffered hosts r.world).effects :=
        (Failover.redirect_keepsTo hosts r.world).1
      have hsent := (htried.between hbefore hafter).1
      rw [← Failover.execute, ← heffects] at hsent
      refine ⟨hsent, ?_⟩
      rw [hsent]
      exact attempts_of_redirect _ _ _ hne _
    · rw [hproxy] at heffects ⊢
      obtain ⟨tried, -, -, htried, hattempts⟩ :=
        @Failover.tried_of_pass σ out d.attemptLimit buffered hosts hne r.world
      have hserved : Failover.Tried buffered tried
          (d.serve out span request body e s.now r).effects :=
        heffects ▸ htried.between hbefore hafter
      have hrecorded := (attempts_outcome e.processId r.decision.route hosts _).trans hattempts
      exact ⟨body, tried, hbody, hserved, hrecorded, hrecorded ▸ hserved.length_eq_iff⟩

/-- A proxied request and a redirected one, with the record of each. -/
theorem attempts_by_path_and_query :
    let proxied := Visit.byPath.answered.effects
    let redirected := Visit.byQuery.answered.effects
    (∃ o ∈ Effect.outcomes proxied, ∃ tried : List Host,
      Effect.tried proxied = tried.map (·.url.text) ∧ o.attempts = tried.length) ∧
    ∃ o ∈ Effect.outcomes redirected, o.attempts = (Effect.requests redirected).length := by
  intro proxied redirected
  have hproxied : ⟨Visit.byPath.extracted.processId, "http://a", .pool, 2, true⟩ ∈
      Effect.outcomes proxied := by decide +kernel
  have hredirected : ⟨Visit.byQuery.extracted.processId, "http://b", .pool, 0, true⟩ ∈
      Effect.outcomes redirected := by decide +kernel
  obtain ⟨-, -, hproxy⟩ := recorded_attempts _ _ _ _ _ hproxied
  obtain ⟨body, tried, -, htried, hcount, -⟩ := hproxy rfl
  obtain ⟨-, hredirect, -⟩ := recorded_attempts _ _ _ _ _ hredirected
  exact ⟨⟨_, hproxied, tried, htried.2, hcount⟩, _, hredirected, (hredirect rfl).2.mpr rfl⟩

/-- A gateway that redirects to a host whose text is no header value. -/
def brokenRedirect : Dispatcher :=
  ⟨⟨[⟨"http://a\nb", false⟩], by decide, by decide⟩, .redirect, .compute, ⟨none, .ofMillis 2000⟩,
    .ofMillis 5000, Config.defaultMaxBodyBytes⟩

/-- One attempt is recorded of a redirection that failed, and no host was contacted. -/
theorem attempts_without_contact :
    ¬∀ (c : Config) (d : Dispatcher) (warnings : List Effect) (out : Outside Unit) (ttl : Duration)
      (s : Situation Unit), ofConfig c = .ok (d, warnings) → d.Reachable out ttl s →
      ∀ (span : Option String) (request : Http.Arrival),
        let effects := (d.dispatch out span request s).effects
        ∀ o ∈ Effect.outcomes effects, o.attempts = (Effect.requests effects).length := by
  intro h
  have hbuilt : ofConfig { hosts := ["http://a\nb"], unit := .compute, strategy := .redirect } =
      .ok (brokenRedirect, []) := Visit.ofConfig_of_toOption (by decide +kernel)
  have hcounted := h _ _ _ Failover.oneDown (.ofMillis 10) _ hbuilt (.start 0 ()) none
    Visit.byPath.request
  revert hcounted
  decide +kernel

end Dispatcher

end AffinityGate
