import AffinityGate.Host.Pool
import AffinityGate.Http.Message

/-!
# What can be observed of a gateway

Whatever a gateway does besides answering is a list of effects in order: requests handed to hosts,
questions to the registry, outcome records, counters, and the trace.
-/

namespace AffinityGate

/-- Which candidates served a request. -/
inductive Route
  | pool
  | subrouter
  deriving DecidableEq, Repr

/-- The name of a route. -/
def Route.name : Route → String
  | .pool => "pool"
  | .subrouter => "subrouter"

/-- The record of one dispatched request. -/
structure Outcome where
  processId : ProcessId
  host : String
  route : Route
  attempts : Nat
  success : Bool
  deriving DecidableEq

/-- How an owner was found, or why it was not. -/
inductive LookupResult
  | cacheHit
  | fetched
  | notFound
  | failed
  | timedOut
  | dataItem
  deriving DecidableEq, Repr

/-- The label of a lookup result. -/
def LookupResult.name : LookupResult → String
  | .cacheHit => "cache_hit"
  | .fetched => "fetched"
  | .notFound => "not_found"
  | .failed => "error"
  | .timedOut => "timeout"
  | .dataItem => "data_item"

/-- A counter with its labels, or a sample of a histogram. -/
inductive Metric
  | requests (route : Route) (success : Bool)
  | duration (route : Route)
  | attempts (reached : Bool)
  | lookups (result : LookupResult)
  deriving DecidableEq, Repr

namespace Metric

/-- The name of a metric. -/
def name : Metric → String
  | .requests _ _ => "unit_router_requests_total"
  | .duration _ => "unit_router_request_duration_seconds"
  | .attempts _ => "unit_router_attempts_total"
  | .lookups _ => "unit_router_owner_lookups_total"

/-- The labels of a metric, sorted. -/
def labels : Metric → List (String × String)
  | .requests r ok => [("outcome", if ok then "success" else "exhausted"), ("route", r.name)]
  | .duration r => [("route", r.name)]
  | .attempts reached => [("outcome", if reached then "reached" else "failed")]
  | .lookups r => [("result", r.name)]

/-- Name, kind, unit and meaning of every metric. -/
def descriptions : List (String × String × String × String) :=
  [("unit_router_requests_total", "counter", "count",
      "Requests dispatched by the router, by route kind and outcome."),
   ("unit_router_request_duration_seconds", "histogram", "seconds",
      "End-to-end dispatch latency including failover attempts."),
   ("unit_router_attempts_total", "counter", "count",
      "Individual host attempts, by outcome (reached / failed)."),
   ("unit_router_owner_lookups_total", "counter", "count",
      "Owner resolutions for the subrouter override, by result.")]

end Metric

/-- The severity of an event. -/
inductive Level
  | trace
  | debug
  | info
  | warn
  | error
  deriving DecidableEq, Repr

/-- The name of a level. -/
def Level.name : Level → String
  | .trace => "trace"
  | .debug => "debug"
  | .info => "info"
  | .warn => "warn"
  | .error => "error"

/-- Named values of a span or an event. -/
abbrev Fields := List (String × String)

/-- An entry of the trace: a span opens, a span's field gets a value, an event happens. -/
inductive TraceEntry
  | span (name : String) (fields : Fields)
  | record (span : String) (fields : Fields)
  | event (level : Level) (message : String) (fields : Fields)
  deriving DecidableEq, Repr

/-- What a gateway does besides answering. -/
inductive Effect
  | sent (request : Http.Request)
  | asked (id : ProcessId)
  | recorded (outcome : Outcome)
  | counted (metric : Metric)
  | traced (entry : TraceEntry)
  deriving DecidableEq

namespace Effect

/-- An event of the trace. -/
def event (level : Level) (message : String) (fields : Fields) : Effect :=
  .traced (.event level message fields)

/-- The requests handed to hosts, in order. -/
def requests (es : List Effect) : List Http.Request :=
  es.filterMap fun
    | .sent r => some r
    | _ => none

/-- The ids the registry was asked for, in order. -/
def lookups (es : List Effect) : List ProcessId :=
  es.filterMap fun
    | .asked p => some p
    | _ => none

/-- The outcome records, in order. -/
def outcomes (es : List Effect) : List Outcome :=
  es.filterMap fun
    | .recorded o => some o
    | _ => none

/-- The counters moved and samples taken, in order. -/
def metrics (es : List Effect) : List Metric :=
  es.filterMap fun
    | .counted m => some m
    | _ => none

/-- The trace, in order. -/
def trace (es : List Effect) : List TraceEntry :=
  es.filterMap fun
    | .traced t => some t
    | _ => none

end Effect
end AffinityGate
