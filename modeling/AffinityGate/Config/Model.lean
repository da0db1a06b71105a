import AffinityGate.Process.Carrier
import AffinityGate.Time.Reading

/-!
# Configuration

What a gateway is configured with.  Durations are kept as written; they are read where they are
used.
-/

namespace AffinityGate

/-- How a selected host is handed to the client. -/
inductive Strategy
  | proxy
  | redirect
  deriving DecidableEq, Repr

namespace Strategy

/-- The name of a strategy. -/
def name : Strategy → String
  | .proxy => "proxy"
  | .redirect => "redirect"

/-- The strategy of a name. -/
def ofName? : String → Option Strategy
  | "proxy" => some .proxy
  | "redirect" => some .redirect
  | _ => none

end Strategy

namespace Config

/-- Limits on one host attempt and on one owner lookup. -/
structure Timeouts where
  attempt : String := "5s"
  registry : String := "2s"
  deriving DecidableEq, Repr

/-- The override for the processes of certain owners.  It needs its URL, the registry's URL and an
owner that is not blank. -/
structure Subrouter where
  url : Option String := none
  registryUrl : Option String := none
  owners : Option (List String) := none
  cacheTtl : String := "1h"
  deriving DecidableEq, Repr

/-- What is logged, and how. -/
structure Logging where
  level : String := "info"
  json : Bool := true
  includeSpans : Bool := true
  deriving DecidableEq, Repr

/-- Files of a certificate chain and its key. -/
structure Tls where
  certPath : String
  keyPath : String
  deriving DecidableEq, Repr

namespace Timeouts

/-- The limit on one host attempt. -/
def attemptLimit (t : Timeouts) : Except Duration.Fault Duration := Duration.parse t.attempt

/-- The limit on one owner lookup. -/
def registryLimit (t : Timeouts) : Except Duration.Fault Duration := Duration.parse t.registry

end Timeouts

namespace Subrouter

/-- How long a resolved owner is trusted. -/
def ttl (s : Subrouter) : Except Duration.Fault Duration := Duration.parse s.cacheTtl

/-- Whether an owner is named that is not blank. -/
def hasOwner (s : Subrouter) : Bool :=
  (s.owners.getD []).any fun o => trimText o != ""

/-- Whether some but not all of the three needed values are present. -/
def isPartial (s : Subrouter) : Bool :=
  let present := [s.url.isSome, s.registryUrl.isSome, s.hasOwner]
  present.any id && !present.all id

end Subrouter
end Config

/-- The listen address when none is configured. -/
def Config.defaultListenAddr : String := "127.0.0.1:8080"

/-- The body limit when none is configured: ten mebibytes. -/
def Config.defaultMaxBodyBytes : Nat := 10 * 1024 * 1024

/-- The configuration of a gateway. -/
structure Config where
  listenAddr : String := Config.defaultListenAddr
  hosts : List String
  unit : UnitKind
  strategy : Strategy := .proxy
  timeouts : Config.Timeouts := {}
  subrouter : Config.Subrouter := {}
  maxBodyBytes : Nat := Config.defaultMaxBodyBytes
  logging : Config.Logging := {}
  tls : Option Config.Tls := none
  deriving DecidableEq, Repr

end AffinityGate
