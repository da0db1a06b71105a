import AffinityGate.Proofs.Dispatch.Built
import AffinityGate.Proofs.Failover.Pass

/-!
# Affinity: a process keeps its place

Where the requests of a process go depends on nothing but its id, the host list and the override.
A `Visit` is one request at one gateway, with everything that could matter around it: the
configuration, the outside, and the situation that a history has led to.
`same_process_same_place` compares any two visits.
-/

namespace AffinityGate

variable {σ τ : Type}

/-! ## Serving a sequence of candidates -/

/-- A served request keeps to a sequence of candidates.  In proxy mode it tries the hosts of a
non-empty prefix, in order, and hands the client port what can be addressed at them.  In redirect
mode it tries none, and a location that it answers is at the first host. -/
def KeepsTo (strategy : Strategy) (request : Buffered) (sequence : List Host)
    (effects : List Effect) (response? : Option Http.Response) : Prop :=
  match strategy with
  | .proxy => ∃ tried, tried ≠ [] ∧ tried <+: sequence ∧ Failover.Tried request tried effects
  | .redirect => Failover.Tried request [] effects ∧
      ∀ response location, response? = some response →
        (Http.HeaderName.location, location) ∈ response.headers →
        ∃ first, sequence.head? = some first ∧ location = first.url.join request.pathAndQuery

namespace Failover

variable {out : Outside σ} {limit : Duration} {request : Buffered}

/-- The number of attempts that a pass reports: of a success its own, of a failure the number of
candidates. -/
def attempts (candidates : List Host) : Except FailoverError Dispatched → Nat
  | .ok s => s.attempts
  | .error _ => candidates.length

/-- A pass tries a non-empty prefix of its candidates, and reports how many it tried. -/
theorem tried_of_pass {candidates : List Host} (hne : candidates ≠ []) (w : σ) :
    let f := pass out limit request 0 candidates w
    ∃ tried, tried ≠ [] ∧ tried <+: candidates ∧ Tried request tried f.effects ∧
      attempts candidates f.result = tried.length := by
  rcases first_answer_or_all_fail out limit request candidates w with
    ⟨before, host, after, w₁, response, w₂, rfl, hb, ha⟩ | ⟨w₂, hall⟩
  · obtain ⟨hresult, htried, -⟩ := pass_answered hb ha after 0
    refine ⟨before ++ [host], by simp, ⟨after, by simp⟩, htried, ?_⟩
    rw [hresult, List.length_append]
    exact congrArg (· + 1) (Nat.zero_add _)
  · obtain ⟨before, last, w₁, cause, rfl, hb, hl⟩ := hall.last hne
    obtain ⟨hresult, htried, -⟩ := pass_exhausted hb hl 0
    refine ⟨before ++ [last], by simp, List.prefix_rfl, htried, ?_⟩
    rw [hresult]
    rfl

/-- A redirection tries no host, and points to the first one. -/
theorem redirect_keepsTo (candidates : List Host) (w : σ) :
    KeepsTo .redirect request candidates (redirect request candidates w).effects
      ((redirect request candidates w).result.toOption.map (·.response)) := by
  unfold redirect
  split
  · exact ⟨⟨rfl, rfl⟩, by simp [Except.toOption]⟩
  · rename_i host rest
    simp only
    split
    · refine ⟨⟨rfl, rfl⟩, fun response location h hmem => ⟨host, rfl, ?_⟩⟩
      cases h
      simpa using hmem
    · exact ⟨⟨rfl, rfl⟩, by simp [Except.toOption]⟩

theorem execute_keepsTo (strategy : Strategy) {candidates : List Host} (hne : candidates ≠ [])
    (w : σ) :
    KeepsTo strategy request candidates (execute out limit strategy request candidates w).effects
      ((execute out limit strategy request candidates w).result.toOption.map (·.response)) := by
  cases strategy with
  | proxy =>
    obtain ⟨tried, hsome, hprefix, htried, -⟩ := tried_of_pass hne w
    exact ⟨tried, hsome, hprefix, htried⟩
  | redirect => exact redirect_keepsTo candidates w

end Failover

/-- Effects that reach no host change nothing about what was tried. -/
theorem Failover.Tried.between {request : Buffered} {hosts : List Host}
    {es before after : List Effect}
    (h : Tried request hosts es) (hb : Effect.Aside before) (ha : Effect.Aside after) :
    Tried request hosts (before ++ es ++ after) := by
  constructor
  · rw [Effect.requests_append, Effect.requests_append, hb.requests, ha.requests, h.1]
    simp
  · rw [Effect.tried_append, Effect.tried_append, hb.tried, ha.tried, h.2]
    simp

theorem KeepsTo.between {strategy : Strategy} {request : Buffered} {sequence : List Host}
    {es before after : List Effect} {response? : Option Http.Response}
    (h : KeepsTo strategy request sequence es response?) (hb : Effect.Aside before)
    (ha : Effect.Aside after) :
    KeepsTo strategy request sequence (before ++ es ++ after) response? := by
  cases strategy with
  | proxy =>
    obtain ⟨tried, hne, hprefix, htried⟩ := h
    exact ⟨tried, hne, hprefix, htried.between hb ha⟩
  | redirect => exact ⟨h.1.between hb ha, h.2⟩

/-! ## Decisions -/

/-- A resolution under a policy: it tries no host, and decides for the pool or for the subrouter of
the policy. -/
structure Resolved.Under (policy : Option OwnerPolicy) (a : Resolved σ) : Prop where
  aside : Effect.Aside a.effects
  decided : a.decision = .pool ∨ ∃ p, policy = some p ∧ a.decision = .subrouter p.subrouter

namespace Resolver

theorem decide_cases (p : OwnerPolicy) (owner : String) :
    decide p owner = .pool ∨ ∃ q, some p = some q ∧ decide p owner = .subrouter q.subrouter := by
  unfold decide
  split
  · exact Or.inr ⟨p, rfl, rfl⟩
  · exact Or.inl rfl

theorem Resolution.under {r : Resolver} {out : Outside σ} {now : Nat} {store : OwnerStore}
    {id : ProcessId} {w : σ} {a : Resolved σ} (h : r.Resolution out now store id w a) :
    a.Under r.policy := by
  have hasked (answer) :=
    (Effect.aside_asked id).cons (quiet_lookupEffects r.limit id answer).toAside
  cases h with
  | off _ => exact ⟨Effect.quiet_nil.toAside, Or.inl rfl⟩
  | @kept p owner _ hp _ =>
    rw [hp]
    exact ⟨.cons ⟨rfl, rfl⟩ (quiet_decideEffects p id owner).toAside, decide_cases p owner⟩
  | @found p owner _ _ answer hp _ _ _ =>
    rw [hp]
    exact ⟨(hasked answer).append (quiet_decideEffects p id owner).toAside, decide_cases p owner⟩
  | @missing _ _ _ answer _ _ _ _ => exact ⟨hasked answer, Or.inl rfl⟩

theorem resolveWithOwner_under (r : Resolver) (now : Nat) (store : OwnerStore) (id : ProcessId)
    (owner : String) (w : σ) : (r.resolveWithOwner now store id owner w).Under r.policy := by
  unfold resolveWithOwner
  cases r.policy with
  | none => exact ⟨Effect.quiet_nil.toAside, Or.inl rfl⟩
  | some p =>
    exact ⟨.cons ⟨rfl, rfl⟩ (quiet_decideEffects p id owner).toAside, decide_cases p owner⟩

end Resolver

namespace Dispatcher

theorem decision_under (d : Dispatcher) (out : Outside σ) (s : Situation σ) (e : Extracted) :
    (d.decision out s e).Under d.resolver.policy := by
  unfold decision
  split
  · exact Resolver.resolveWithOwner_under ..
  · exact (Resolver.resolution_resolve ..).under

theorem candidates_ne_nil (d : Dispatcher) (id : ProcessId) (decision : Decision) :
    d.candidates id decision ≠ [] := by
  cases decision with
  | pool =>
    have hlength := d.pool.length_candidates id
    have hpos := d.pool.size_pos
    rw [candidates, ← List.length_pos_iff]
    omega
  | subrouter h => simp [candidates]

/-- What happens around the failover of a request that is served reaches no host. -/
theorem serve_effects (d : Dispatcher) (out : Outside σ) (span : Option String)
    (request : Http.Arrival) (body : Bytes) (e : Extracted) (now : Nat) {r : Resolved σ}
    (hr : Effect.Aside r.effects) :
    let hosts := d.candidates e.processId r.decision
    let buffered := Buffered.make request.method (pathAndQuery request.uri) request.headers body
    let f := Failover.execute out d.attemptLimit d.strategy buffered hosts r.world
    ∃ before after, Effect.Aside before ∧ Effect.Aside after ∧
      (d.serve out span request body e now r).effects = before ++ f.effects ++ after := by
  intro hosts buffered f
  refine ⟨note span "process.id" e.processId.text ++ r.effects
      ++ note span "route" r.decision.route.name
      ++ [candidatesEvent e.processId r.decision.route hosts],
    record out (outcome e.processId r.decision.route hosts f.result)
      ++ failureEvent e.processId r.decision.route f.result, ?_, ?_, ?_⟩
  · exact (((quiet_note ..).toAside.append hr).append (quiet_note ..).toAside).append
      (quiet_candidatesEvent ..).toAside
  · exact (quiet_record ..).toAside.append (quiet_failureEvent ..).toAside
  · rw [← List.append_assoc]
    rfl

/-- A request that is served keeps to the candidates of its decision. -/
theorem serve_keepsTo (d : Dispatcher) (out : Outside σ) (span : Option String)
    (request : Http.Arrival) (body : Bytes) (e : Extracted) (now : Nat) {r : Resolved σ}
    (hr : Effect.Aside r.effects) :
    let a := d.serve out span request body e now r
    KeepsTo d.strategy (.make request.method (pathAndQuery request.uri) request.headers body)
      (d.candidates e.processId r.decision) a.effects a.result.toOption := by
  intro a
  let hosts := d.candidates e.processId r.decision
  let buffered := Buffered.make request.method (pathAndQuery request.uri) request.headers body
  let f := Failover.execute out d.attemptLimit d.strategy buffered hosts r.world
  have hf : KeepsTo d.strategy buffered hosts f.effects (f.result.toOption.map (·.response)) :=
    Failover.execute_keepsTo d.strategy (d.candidates_ne_nil _ _) r.world
  obtain ⟨before, after, hbefore, hafter, heffects⟩ :=
    d.serve_effects out span request body e now hr
  have hresult : a.result.toOption = f.result.toOption.map (·.response) := by
    simp only [a, serve]
    cases f.result <;> rfl
  rw [hresult, heffects]
  exact hf.between hbefore hafter

/-- Something that happens to a gateway. -/
inductive Event
  | request (span : Option String) (request : Http.Arrival)
  | pause (millis : Nat)
  deriving DecidableEq

/-- The situation after one event. -/
def meet (d : Dispatcher) (out : Outside σ) (s : Situation σ) : Event → Situation σ
  | .request span request => (d.dispatch out span request s).after
  | .pause millis => { s with now := s.now + millis }

/-- The situation after a history. -/
def situation (d : Dispatcher) (out : Outside σ) (start : Situation σ) (history : List Event) :
    Situation σ :=
  history.foldl (d.meet out) start

end Dispatcher

/-! ## Visits -/

/-- One request at one gateway, with everything around it: the configuration that the gateway was
built from, the outside, the situation that it started in, its history, and the request, whose body
arrives whole and which names a process. -/
structure Visit (σ : Type) where
  config : Config
  dispatcher : Dispatcher
  warnings : List Effect
  built : Dispatcher.ofConfig config = .ok (dispatcher, warnings)
  out : Outside σ
  start : Situation σ
  history : List Dispatcher.Event
  span : Option String
  request : Http.Arrival
  body : Bytes
  whole : request.body.buffer dispatcher.maxBodyBytes = .ok body
  extracted : Extracted
  named : Extracted.ofRequest? dispatcher.unit request.uri body = some extracted

namespace Visit

/-- The situation that the request meets. -/
def situation (v : Visit σ) : Situation σ :=
  v.dispatcher.situation v.out v.start v.history

def decision (v : Visit σ) : Decision :=
  (v.dispatcher.decision v.out v.situation v.extracted).decision

def candidates (v : Visit σ) : List Host :=
  v.dispatcher.candidates v.extracted.processId v.decision

def answered (v : Visit σ) : Answered σ (Except DispatchError Http.Response) :=
  v.dispatcher.dispatch v.out v.span v.request v.situation

/-- The request as it is passed on. -/
def buffered (v : Visit σ) : Buffered :=
  .make v.request.method (Dispatcher.pathAndQuery v.request.uri) v.request.headers v.body

/-- The visit keeps to a sequence of candidates, in what it does and in what it answers. -/
def KeepsTo (v : Visit σ) (sequence : List Host) : Prop :=
  AffinityGate.KeepsTo v.dispatcher.strategy v.buffered sequence v.answered.effects
    v.answered.result.toOption

/-- Where a visit's request goes: to a sequence of the pool, or to the configured subrouter, which
is then the only candidate and is tried exactly once. -/
structure Placed (v : Visit σ) (sequence : List Host) : Prop where
  decided : v.decision = .pool ∨ ∃ p, v.dispatcher.resolver.policy = some p ∧
    v.decision = .subrouter p.subrouter
  pool : v.decision = .pool → v.candidates = sequence ∧ v.KeepsTo sequence
  subrouter : ∀ gate, v.decision = .subrouter gate →
    v.candidates = [gate] ∧ v.KeepsTo [gate] ∧
    (∃ url, v.config.subrouter.url = some url ∧ HostUrl.parse url = .ok gate.url) ∧
    (v.dispatcher.strategy = .proxy → Effect.tried v.answered.effects = [gate.url.text] ∧
      Effect.requests v.answered.effects = (v.buffered.outgoing? gate).toList)

theorem keepsTo_candidates (v : Visit σ) : v.KeepsTo v.candidates := by
  have hserve := v.dispatcher.serve_keepsTo v.out v.span v.request v.body
    v.extracted v.situation.now (v.dispatcher.decision_under v.out v.situation v.extracted).aside
  unfold KeepsTo answered Dispatcher.dispatch
  rw [v.whole]
  simp only [v.named]
  exact hserve

/-- A visit is placed at the candidates that its pool has for its process. -/
theorem placed_candidates (v : Visit σ) :
    v.Placed (v.dispatcher.pool.candidates v.extracted.processId) where
  decided := (v.dispatcher.decision_under v.out v.situation v.extracted).decided
  pool := fun h => by
    have hkeeps := v.keepsTo_candidates
    have hcandidates : v.candidates = v.dispatcher.pool.candidates v.extracted.processId := by
      rw [candidates, h]
      rfl
    rw [hcandidates] at hkeeps
    exact ⟨hcandidates, hkeeps⟩
  subrouter := fun gate h => by
    have hkeeps := v.keepsTo_candidates
    have hcandidates : v.candidates = [gate] := by
      rw [candidates, h]
      rfl
    rw [hcandidates] at hkeeps
    refine ⟨hcandidates, hkeeps, ?_, fun hproxy => ?_⟩
    · rcases (v.dispatcher.decision_under v.out v.situation v.extracted).decided with
        hpool | ⟨p, hp, hgate⟩
      · rw [decision, hpool] at h
        cases h
      · obtain ⟨-, hpolicy, -⟩ := Dispatcher.ofConfig_eq_ok_iff.mp v.built
        rw [hp] at hpolicy
        obtain ⟨url, hurl, hparse, -⟩ := OwnerPolicy.subrouter_of_ofConfig hpolicy
        rw [decision, hgate] at h
        cases h
        exact ⟨url, hurl, hparse⟩
    · unfold KeepsTo at hkeeps
      rw [hproxy] at hkeeps
      obtain ⟨tried, hne, hprefix, hrequests, htried⟩ := hkeeps
      have honly : tried = [gate] := by
        rcases List.prefix_cons_iff.mp hprefix with hnil | ⟨rest, rfl, hrest⟩
        · exact absurd hnil hne
        · rw [List.prefix_nil.mp hrest]
      rw [honly] at hrequests htried
      refine ⟨htried, hrequests.trans ?_⟩
      cases hout : v.buffered.outgoing? gate <;> simp [hout]

/-- A dispatcher that can be computed. -/
theorem ofConfig_of_toOption {c : Config} {d : Dispatcher} {warnings : List Effect}
    (h : (Dispatcher.ofConfig c).toOption = some (d, warnings)) :
    Dispatcher.ofConfig c = .ok (d, warnings) := by
  cases hc : Dispatcher.ofConfig c with
  | error e =>
    rw [hc] at h
    cases h
  | ok built =>
    rw [hc] at h
    cases h
    rfl

/-- **A process keeps its place.**  Two visits of one process, at gateways with the same host list
and the same override, whatever else differs between them, are placed at one sequence: if the pool
is decided, its candidates, and else the one subrouter. -/
theorem same_process_same_place (v : Visit σ) (u : Visit τ)
    (hhosts : v.config.hosts = u.config.hosts)
    (hpolicy : v.dispatcher.resolver.policy = u.dispatcher.resolver.policy)
    (hid : v.extracted.processId = u.extracted.processId) :
    ∃ sequence, v.Placed sequence ∧ u.Placed sequence ∧
      ∀ gate gate', v.decision = .subrouter gate → u.decision = .subrouter gate' →
        gate = gate' := by
  have hpool : v.dispatcher.pool = u.dispatcher.pool := by
    have hv := (Dispatcher.ofConfig_eq_ok_iff.mp v.built).1
    have hu := (Dispatcher.ofConfig_eq_ok_iff.mp u.built).1
    rw [hhosts, hu] at hv
    exact (Except.ok.inj hv).symm
  refine ⟨v.dispatcher.pool.candidates v.extracted.processId, v.placed_candidates, ?_, ?_⟩
  · rw [hpool, hid]
    exact u.placed_candidates
  · intro gate gate' hv hu
    rcases v.placed_candidates.decided with h | ⟨p, hp, h⟩
    · rw [h] at hv
      cases hv
    · rcases u.placed_candidates.decided with h' | ⟨p', hp', h'⟩
      · rw [h'] at hu
        cases hu
      · rw [h] at hv
        rw [h'] at hu
        rw [hp, hp'] at hpolicy
        cases hpolicy
        cases hv
        cases hu
        rfl

/-- A process in the path, behind compute units, in proxy mode. -/
def byPath : Visit Unit where
  config := { hosts := ["http://a", "http://b"], unit := .compute }
  dispatcher := ⟨⟨[⟨"http://a", false⟩, ⟨"http://b", false⟩], by decide, by decide⟩, .proxy,
    .compute, ⟨none, .ofMillis 2000⟩, .ofMillis 5000, Config.defaultMaxBodyBytes⟩
  warnings := []
  built := ofConfig_of_toOption (by decide +kernel)
  out := Failover.oneDown
  start := ⟨0, .timed (.empty (.ofMillis 10)), ()⟩
  history := [.pause 3]
  span := none
  request := ⟨.get, ⟨none, [], Utf8.ofText "/state/p"⟩, [], .ofBytes []⟩
  body := []
  whole := by rfl
  extracted := ⟨⟨"p", by rfl, by decide⟩, none⟩
  named := by decide +kernel

/-- The same process in the query, behind messenger units, in redirect mode, after a request for
another process. -/
def byQuery : Visit Nat where
  config := { hosts := ["http://a", "http://b"], unit := .messenger, strategy := .redirect }
  dispatcher := ⟨⟨[⟨"http://a", false⟩, ⟨"http://b", false⟩], by decide, by decide⟩, .redirect,
    .messenger, ⟨none, .ofMillis 2000⟩, .ofMillis 5000, Config.defaultMaxBodyBytes⟩
  warnings := []
  built := ofConfig_of_toOption (by decide +kernel)
  out := ⟨fun _ n => (.never, n + 1), fun _ n => (.never, n + 1), fun _ => false⟩
  start := ⟨7, .forgetful, 0⟩
  history :=
    [.request none ⟨.get, ⟨none, [], Utf8.ofText "/monitor/q"⟩, [], .ofBytes []⟩, .pause 40]
  span := some "request"
  request := ⟨.post, ⟨none, [], Utf8.ofText "/x?process-id=p"⟩, [], .ofBytes [1, 2]⟩
  body := [1, 2]
  whole := by rfl
  extracted := ⟨⟨"p", by rfl, by decide⟩, none⟩
  named := by decide +kernel

/-- The two carriers of the process lead to one place. -/
theorem path_and_query_same_place :
    byPath.config.hosts = byQuery.config.hosts ∧
    byPath.dispatcher.resolver.policy = byQuery.dispatcher.resolver.policy ∧
    byPath.extracted.processId = byQuery.extracted.processId ∧
    ∃ sequence, byPath.Placed sequence ∧ byQuery.Placed sequence := by
  refine ⟨rfl, rfl, rfl, ?_⟩
  obtain ⟨sequence, hpath, hquery, -⟩ := same_process_same_place byPath byQuery rfl rfl rfl
  exact ⟨sequence, hpath, hquery⟩

end Visit
end AffinityGate
