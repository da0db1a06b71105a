import AffinityGate.Config.Load
import AffinityGate.Config.Validation
import AffinityGate.Lifecycle.Credentials
import AffinityGate.Logging.Journal
import AffinityGate.Serving.App

/-!
# Starting a gateway

A start loads the configuration, sets up the log, checks the configuration, builds the parts and
binds the address, in this order; it ends with the first step that fails.  `run` follows a gateway
from its start to its stop and gives what it logs.
-/

namespace AffinityGate

open Logging (Record flagText)

/-- What a gateway finds when it starts. -/
structure Surroundings where
  files : Files
  vars : List (String × String)
  canBind : Net.Socket → Bool

/-- Why a gateway does not start. -/
inductive StartError
  | config (path : String) (cause : Config.LoadError)
  | filter (level : String) (cause : Logging.FilterError)
  | invalid (report : String)
  | registry (cause : HostError)
  | duration (field : String) (cause : Duration.Fault)
  | dispatcher (cause : ConfigError)
  | address
  | bind
  | credentials (cause : CredentialsError)
  deriving DecidableEq

/-- The outermost wording of an error. -/
def StartError.message : StartError → String
  | .config path _ => "Failed to load config from " ++ path
  | .filter level _ => "Failed to initialize tracing: Invalid log level: " ++ level
  | .invalid _ => "Invalid configuration"
  | .registry e => e.message
  | .duration field _ => "Invalid " ++ field
  | .dispatcher _ => "Failed to build request dispatcher"
  | .address => "Failed to parse listen address"
  | .bind => "Failed to bind to address"
  | .credentials e => e.message

/-- A gateway that has started. -/
structure Gateway where
  dispatcher : Dispatcher
  ownersKept : Duration
  address : Net.Socket
  credentials : Option Credentials

namespace Gateway

/-- A step of a start: it logs and may fail. -/
abbrev Starting := ExceptT StartError (StateM (List Record))

/-- Logs a record. -/
def log (r : Record) : Starting Unit :=
  modify (· ++ [r])

/-- Goes on with a value or fails with a cause. -/
def orFail {α ε : Type} (cause : ε → StartError) (r : Except ε α) : Starting α :=
  match r with
  | .ok a => pure a
  | .error e => throw (cause e)

/-- Targets of the records. -/
def target (part : String) : String :=
  "unit_router" ++ part

/-- A record of the program itself. -/
def info (message : String) (fields : List (String × Json) := []) : Record :=
  ⟨.info, target "", message, fields⟩

/-- The variable that takes precedence over the configured log level. -/
def levelVariable : String := "RUST_LOG"

/-- The text of the log filter. -/
def filterText (c : Config) (vars : List (String × String)) : String :=
  ((vars.find? (·.1 == levelVariable)).map (·.2)).getD c.logging.level

/-- The first record of every log. -/
def opened (c : Config) (level : String) : Record :=
  ⟨.info, target "::tracing_setup",
    "Router logging initialized with level: " ++ level ++ ", json: " ++ flagText c.logging.json
      ++ ", spans: " ++ flagText c.logging.includeSpans, []⟩

/-- The records of the trace, for the part that left it. -/
def traced (part : String) (es : List Effect) : List Record :=
  (Effect.trace es).filterMap fun
    | .event level message fields =>
      some ⟨level, target part, message, fields.map fun f => (f.1, .string f.2)⟩
    | _ => none

/-- The record of a host. -/
def configured (h : Host) : Record :=
  info "Configured host"
    [("index", (h.position.map fun n => Json.int n).getD .null), ("url", .string h.url.text)]

/-- The record before the address is bound. -/
def announced (c : Config) (d : Dispatcher) : Record :=
  info ("Starting unit router on " ++ c.listenAddr ++ " (unit: " ++ d.unit.name ++ ", strategy: "
    ++ d.strategy.name ++ ", hosts: " ++ toString d.pool.size ++ ", subrouter: "
    ++ flagText d.subrouterEnabled ++ ", TLS: " ++ flagText c.tls.isSome ++ ")")

/-- Checks a configuration. -/
def check (s : Surroundings) (c : Config) : Starting Unit := do
  log ⟨.info, target "::metrics", "Initializing router metrics", []⟩
  orFail .invalid (c.validate s.files.isThere)

/-- Builds the dispatcher and finds how long owners are kept.  A configured registry URL is read even if the override is incomplete. -/
def build (c : Config) : Starting (Dispatcher × Duration) := do
  let limit ← orFail (.duration "timeouts.attempt") c.timeouts.attemptLimit
  log ⟨.info, target "::adapters::http_client", "Created host HTTP client",
    [("connect_timeout", .string limit.text)]⟩
  match c.subrouter.registryUrl with
  | some url => discard (orFail .registry (HostUrl.parse url))
  | none => pure ()
  let ttl ← orFail (.duration "subrouter.cache_ttl") c.subrouter.ttl
  let (d, warnings) ← orFail .dispatcher (Dispatcher.ofConfig c)
  modify (· ++ traced "::core::dispatcher" warnings ++ d.pool.hosts.map configured)
  return (d, ttl)

/-- Binds the configured address. -/
def bind (s : Surroundings) (c : Config) : Starting Net.Socket :=
  match Net.Socket.parse? c.listenAddr.toList with
  | none => throw .address
  | some a => if s.canBind a then pure a else throw .bind

/-- Reads the credentials, if TLS is configured. -/
def readCredentials (s : Surroundings) : Option Config.Tls → Starting (Option Credentials)
  | none => pure none
  | some tls => do
    log (info "Starting server with manual TLS")
    some <$> orFail .credentials (Credentials.read s.files tls)

/-- Starts a gateway of a configuration. -/
def start (s : Surroundings) (c : Config) : Starting Gateway := do
  check s c
  let (d, ttl) ← build c
  log (announced c d)
  let a ← bind s c
  return ⟨d, ttl, a, ← readCredentials s c.tls⟩

/-- The records of a stop. -/
def stopped : List Record :=
  [info "Graceful shutdown completed",
   ⟨.info, target "::tracing_setup", "Router tracing shutdown complete", []⟩]

/-- A start with its log; without a log, nothing was configured. -/
structure Run where
  config : Option Config
  records : List Record
  outcome : Except StartError Gateway

/-- Loads a configuration and starts its gateway.  The log holds what the filter lets through. -/
def launch (s : Surroundings) (path : String) : Run × Option Logging.Filter :=
  match Config.load s.files.contents? path s.vars with
  | .error e => (⟨none, [], .error (.config path e)⟩, none)
  | .ok c =>
    let level := filterText c s.vars
    match Logging.Filter.parse level with
    | .error e => (⟨some c, [], .error (.filter level e)⟩, none)
    | .ok f =>
      let (outcome, records) := (start s c).run.run [opened c level]
      (⟨some c, f.written records, outcome⟩, some f)

/-- A gateway from its start to its stop. -/
def run (s : Surroundings) (path : String) : Run :=
  match launch s path with
  | (r@⟨_, records, .ok _⟩, some f) => { r with records := records ++ f.written stopped }
  | (r, _) => r

end Gateway
end AffinityGate
