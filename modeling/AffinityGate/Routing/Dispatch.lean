import AffinityGate.Routing.Resolver
import AffinityGate.Text.Quoted

/-!
# Dispatch

A request is dispatched in one line: its body is buffered, its process id found, the candidates
chosen by the owner's decision, and the candidates served by the configured strategy.  Every
request that gets as far as its candidates leaves one outcome record.
-/

namespace AffinityGate

/-- Why a request was not served. -/
inductive DispatchError
  | missingProcessId
  | bodyTooLarge (limit : Nat)
  | bodyRead (text : String)
  | failover (cause : FailoverError)
  deriving DecidableEq

/-- The wording of an error. -/
def DispatchError.message : DispatchError → String
  | .missingProcessId =>
    "no process id found in path, `" ++ Extracted.queryKey ++ "` query parameter or body"
  | .bodyTooLarge n => "request body exceeds " ++ toString n ++ " bytes"
  | .bodyRead t => "failed to read request body: " ++ t
  | .failover e => e.message

/-- The fixed part of a gateway. -/
structure Dispatcher where
  pool : HostPool
  strategy : Strategy
  unit : UnitKind
  resolver : Resolver
  attemptLimit : Duration
  maxBodyBytes : Nat
  deriving DecidableEq

/-- Why a configuration has no dispatcher. -/
inductive ConfigError
  | pool (cause : HostError)
  | subrouter (cause : HostError)
  | attempt (cause : Duration.Fault)
  | registry (cause : Duration.Fault)
  deriving DecidableEq

/-- The wording of an error, outer part first. -/
def ConfigError.message : ConfigError → String
  | .pool e => "Invalid host pool: " ++ e.message
  | .subrouter e => "Invalid subrouter configuration: " ++ e.message
  | .attempt e => "Invalid timeouts.attempt: " ++ e.message
  | .registry e => "Invalid timeouts.registry: " ++ e.message

/-- The changing part of a gateway with everything around it. -/
structure Situation (σ : Type) where
  now : Nat
  store : OwnerStore
  world : σ

/-- A dispatched request: the answer, the effects in order, and the situation after it. -/
structure Answered (σ α : Type) where
  result : α
  effects : List Effect
  after : Situation σ

namespace Http.BodyStream

/-- Whether chunks fit, one after the other, into the room that is left. -/
def fits : Nat → List Bytes → Bool
  | _, [] => true
  | room, c :: cs => decide (c.length ≤ room) && fits (room - c.length) cs

/-- The whole body.  The limit is checked before the end of the stream is seen. -/
def buffer (limit : Nat) (s : BodyStream) : Except DispatchError Bytes :=
  if fits limit s.chunks then
    match s.failure with
    | some t => .error (.bodyRead t)
    | none => .ok s.chunks.flatten
  else .error (.bodyTooLarge limit)

end Http.BodyStream

namespace Dispatcher

variable {σ : Type}

/-- The warning about an override section that lacks a value. -/
def incompleteSubrouter : Effect :=
  .event .warn ("Subrouter section is incomplete (url, registry_url and owners are all required); "
    ++ "owner override disabled") []

/-- The dispatcher of a configuration and the warnings about it. -/
def ofConfig (c : Config) : Except ConfigError (Dispatcher × List Effect) := do
  let pool ← (HostPool.parse c.hosts).mapError .pool
  let policy ← (OwnerPolicy.ofConfig c.subrouter).mapError .subrouter
  let warnings := if policy.isNone && c.subrouter.isPartial then [incompleteSubrouter] else []
  let attempt ← c.timeouts.attemptLimit.mapError .attempt
  let registry ← c.timeouts.registryLimit.mapError .registry
  return (⟨pool, c.strategy, c.unit, ⟨policy, registry⟩, attempt, c.maxBodyBytes⟩, warnings)

/-- Whether the override is in force. -/
def subrouterEnabled (d : Dispatcher) : Bool :=
  d.resolver.policy.isSome

/-- The candidates of a decision. -/
def candidates (d : Dispatcher) (id : ProcessId) : Decision → List Host
  | .pool => d.pool.candidates id
  | .subrouter h => [h]

/-- A field of the surrounding span gets its value, if there is such a span. -/
def note (span : Option String) (name value : String) : List Effect :=
  match span with
  | some s => [.traced (.record s [(name, value)])]
  | none => []

/-- The trace of the chosen candidates. -/
def candidatesEvent (id : ProcessId) (route : Route) (hosts : List Host) : Effect :=
  .event .debug "candidate sequence built" [("process_id", id.text), ("route", route.name),
    ("candidates", toString hosts.length),
    ("primary", match hosts with
      | h :: _ => "Some(" ++ Quoted.text h.url.text ++ ")"
      | [] => "None")]

/-- The outcome of a failover. -/
def outcome (id : ProcessId) (route : Route) (hosts : List Host) :
    Except FailoverError Dispatched → Outcome
  | .ok s => ⟨id, s.host.url.text, route, s.attempts, true⟩
  | .error e => ⟨id, (e.lastHost.map (·.url.text)).getD "", route, hosts.length, false⟩

/-- The outcome goes to the sink, which counts it; a sink that refuses it leaves a warning. -/
def record (out : Outside σ) (o : Outcome) : List Effect :=
  [.recorded o, .counted (.requests o.route o.success), .counted (.duration o.route),
   .event .debug "dispatch outcome" [("process_id", o.processId.text), ("host", o.host),
     ("attempts", toString o.attempts), ("success", toString o.success)]]
  ++ if out.accepts o then []
     else [.event .warn "failed to record dispatch outcome" [("error", "sink unavailable")]]

/-- The trace of a failure. -/
def failureEvent (id : ProcessId) (route : Route) : Except FailoverError Dispatched → List Effect
  | .ok _ => []
  | .error e =>
    [.event .error "all candidates failed"
      [("process_id", id.text), ("route", route.name), ("error", e.message)]]

/-- Path and query that are passed on. -/
def pathAndQuery (uri : Http.Uri) : Bytes :=
  uri.pathAndQuery?.getD [0x2F]

/-- The decision for what a request says about its process. -/
def decision (d : Dispatcher) (out : Outside σ) (s : Situation σ) (e : Extracted) : Resolved σ :=
  match e.spawnOwner with
  | some owner => d.resolver.resolveWithOwner s.now s.store e.processId owner s.world
  | none => d.resolver.resolve out s.now s.store e.processId s.world

/-- The candidates of a decision are served and the outcome recorded. -/
def serve (d : Dispatcher) (out : Outside σ) (span : Option String) (request : Http.Arrival)
    (body : Bytes) (e : Extracted) (now : Nat) (r : Resolved σ) :
    Answered σ (Except DispatchError Http.Response) :=
  let id := e.processId
  let route := r.decision.route
  let hosts := d.candidates id r.decision
  let buffered := Buffered.make request.method (pathAndQuery request.uri) request.headers body
  let f := Failover.execute out d.attemptLimit d.strategy buffered hosts r.world
  ⟨match f.result with
    | .ok served => .ok served.response
    | .error e => .error (.failover e),
   note span "process.id" id.text ++ r.effects ++ note span "route" route.name
     ++ [candidatesEvent id route hosts] ++ f.effects ++ record out (outcome id route hosts f.result)
     ++ failureEvent id route f.result,
   ⟨now + r.elapsed + f.elapsed, r.store, f.world⟩⟩

/-- Dispatches a request in a situation, inside a span if there is one. -/
def dispatch (d : Dispatcher) (out : Outside σ) (span : Option String) (request : Http.Arrival)
    (s : Situation σ) : Answered σ (Except DispatchError Http.Response) :=
  match request.body.buffer d.maxBodyBytes with
  | .error e => ⟨.error e, [], s⟩
  | .ok body =>
    match Extracted.ofRequest? d.unit request.uri body with
    | none => ⟨.error .missingProcessId, [], s⟩
    | some e => d.serve out span request body e s.now (d.decision out s e)

end Dispatcher
end AffinityGate
