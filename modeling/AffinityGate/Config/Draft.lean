import AffinityGate.Config.Model

/-!
# Building a configuration step by step

A draft starts from the defaults and is finished by `build?`, which needs a host.
-/

namespace AffinityGate.Config

/-- A configuration in the making. -/
structure Draft where
  config : Config := ⟨defaultListenAddr, [], .compute, .proxy, {}, {}, defaultMaxBodyBytes, {}, none⟩
  deriving DecidableEq, Repr

namespace Draft

/-- Sets the listen address. -/
def listenAddr (d : Draft) (addr : String) : Draft := ⟨{ d.config with listenAddr := addr }⟩

/-- Adds a host at the end of the pool. -/
def host (d : Draft) (url : String) : Draft := ⟨{ d.config with hosts := d.config.hosts ++ [url] }⟩

/-- Sets the unit kind. -/
def unit (d : Draft) (u : UnitKind) : Draft := ⟨{ d.config with unit := u }⟩

/-- Sets the strategy. -/
def strategy (d : Draft) (s : Strategy) : Draft := ⟨{ d.config with strategy := s }⟩

/-- Sets the limit on one host attempt. -/
def attemptTimeout (d : Draft) (t : String) : Draft :=
  ⟨{ d.config with timeouts := { d.config.timeouts with attempt := t } }⟩

/-- Sets the limit on one owner lookup. -/
def registryTimeout (d : Draft) (t : String) : Draft :=
  ⟨{ d.config with timeouts := { d.config.timeouts with registry := t } }⟩

/-- Sets how long an owner is trusted. -/
def ownerCacheTtl (d : Draft) (t : String) : Draft :=
  ⟨{ d.config with subrouter := { d.config.subrouter with cacheTtl := t } }⟩

/-- Sets the three values of the override. -/
def subrouter (d : Draft) (url registryUrl : String) (owners : List String) : Draft :=
  ⟨{ d.config with
      subrouter := ⟨some url, some registryUrl, some owners, d.config.subrouter.cacheTtl⟩ }⟩

/-- Sets the body limit. -/
def maxBodyBytes (d : Draft) (n : Nat) : Draft := ⟨{ d.config with maxBodyBytes := n }⟩

/-- Why a draft cannot be finished. -/
def noHostMessage : String := "At least one host must be configured"

/-- The finished configuration; a draft without hosts has none. -/
def build? (d : Draft) : Option Config :=
  if d.config.hosts.isEmpty then none else some d.config

end Draft
end AffinityGate.Config
