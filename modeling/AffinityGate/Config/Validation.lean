import AffinityGate.Config.Model
import AffinityGate.Host.Url
import AffinityGate.Logging.Filter
import AffinityGate.Net.Address

/-!
# Validation

Every part of a configuration is checked on its own and all problems are reported together, in a
fixed order.
-/

namespace AffinityGate.Config

/-- A problem of a configuration. -/
inductive Problem
  | missing (field : String)
  | invalid (field : String) (text : String)
  | listenAddress (address : String)
  | tls (text : String)
  | duplicateHost (url : String) (position : Nat)
  deriving DecidableEq, Repr

/-- The wording of a problem. -/
def Problem.message : Problem → String
  | .missing field => "Missing required field: " ++ field
  | .invalid field text => "Invalid field '" ++ field ++ "': " ++ text
  | .listenAddress address =>
    "Invalid listen address '" ++ address ++ "': Must be in format 'IP:PORT' "
      ++ "(e.g., '127.0.0.1:3000' or '0.0.0.0:8080')"
  | .tls text => "Invalid TLS configuration: " ++ text
  | .duplicateHost url position =>
    "Duplicate host '" ++ url ++ "' at position " ++ toString position

/-- What is wrong with a URL that hosts may be reached at. -/
def urlFault? (raw : String) : Option String :=
  match Url.parse raw.toList with
  | .error e => some ("Invalid URL format: " ++ e.message)
  | .ok u =>
    if u.scheme ≠ "http" ∧ u.scheme ≠ "https" then
      some ("URL scheme must be 'http' or 'https', got '" ++ u.scheme ++ "'")
    else if u.host.isNone then some "URL must have a valid host"
    else if u.query.isSome ∨ u.fragment.isSome then some "URL must not carry a query or fragment"
    else none

/-- The problem of a URL in a field. -/
def urlProblems (field raw : String) : List Problem :=
  match urlFault? raw with
  | some t => [.invalid field t]
  | none => []

/-- The form under which hosts are compared. -/
def hostKey (raw : String) : List Char :=
  HostUrl.dropSlashes raw.toList

/-- The problems of hosts from a position on; `seen` are the valid ones before it. -/
def hostProblems : List (List Char) → Nat → List String → List Problem
  | _, _, [] => []
  | seen, position, raw :: rest =>
    match urlFault? raw with
    | some t =>
      .invalid ("hosts[" ++ toString position ++ "]") t :: hostProblems seen (position + 1) rest
    | none =>
      if hostKey raw ∈ seen then
        .duplicateHost raw position :: hostProblems seen (position + 1) rest
      else hostProblems (hostKey raw :: seen) (position + 1) rest

/-- The problems of a host list. -/
def hostsProblems (hosts : List String) : List Problem :=
  if hosts.isEmpty then [.missing "hosts"] else hostProblems [] 0 hosts

/-- The problem of a duration, which must not be zero. -/
def durationProblems (field zeroText raw : String) : List Problem :=
  match Duration.parse raw with
  | .error e => [.invalid field ("Invalid duration '" ++ raw ++ "': " ++ e.message)]
  | .ok d => if d.isZero then [.invalid field zeroText] else []

/-- The problems of the limits. -/
def timeoutsProblems (t : Timeouts) : List Problem :=
  durationProblems "timeouts.attempt" "Timeout must be greater than zero" t.attempt
    ++ durationProblems "timeouts.registry" "Timeout must be greater than zero" t.registry

/-- The problems of the override section; it may be incomplete. -/
def subrouterProblems (s : Subrouter) : List Problem :=
  (s.url.map (urlProblems "subrouter.url")).getD []
    ++ (s.registryUrl.map (urlProblems "subrouter.registry_url")).getD []
    ++ durationProblems "subrouter.cache_ttl" "Cache TTL must be greater than zero" s.cacheTtl

/-- The problem of the listen address. -/
def listenProblems (address : String) : List Problem :=
  if (Net.Socket.parse? address.toList).isSome then [] else [.listenAddress address]

/-- The problem of the body limit. -/
def bodyProblems (limit : Nat) : List Problem :=
  if limit = 0 then [.invalid "max_body_bytes" "Must be greater than zero"] else []

/-- The problem of the certificate files. -/
def tlsProblems (fileExists : String → Bool) : Option Tls → List Problem
  | none => []
  | some t =>
    if !fileExists t.certPath then [.tls ("Certificate file does not exist: " ++ t.certPath)]
    else if !fileExists t.keyPath then [.tls ("Private key file does not exist: " ++ t.keyPath)]
    else []

/-- The problem of the log filter. -/
def levelProblems (level : String) : List Problem :=
  match Logging.Filter.parse level with
  | .ok _ => []
  | .error e => [.invalid "logging.level" e.message]

/-- All problems of a configuration. -/
def problems (fileExists : String → Bool) (c : Config) : List Problem :=
  listenProblems c.listenAddr ++ hostsProblems c.hosts ++ timeoutsProblems c.timeouts
    ++ subrouterProblems c.subrouter ++ bodyProblems c.maxBodyBytes
    ++ tlsProblems fileExists c.tls ++ levelProblems c.logging.level

/-- The report of several problems: a numbered list, or the only one alone. -/
def report : List Problem → String
  | [p] => p.message
  | ps =>
    "Found " ++ toString ps.length ++ " validation errors:\n"
      ++ String.join (ps.zipIdx.map fun p =>
        "  " ++ toString (p.2 + 1) ++ ". " ++ p.1.message ++ "\n")

/-- Accepts a configuration without problems, else gives their report. -/
def validate (fileExists : String → Bool) (c : Config) : Except String Unit :=
  match problems fileExists c with
  | [] => .ok ()
  | ps => .error ("Validation failed: " ++ report ps)

end AffinityGate.Config
