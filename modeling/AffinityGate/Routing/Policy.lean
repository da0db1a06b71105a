import AffinityGate.Config.Model
import AffinityGate.Host.Pool

/-!
# The override policy

Processes whose owner is in the allow-set are sent to the subrouter.  A policy exists only if the
subrouter's URL, the registry's URL and at least one owner are configured.
-/

namespace AffinityGate

/-- A complete override. -/
structure OwnerPolicy where
  subrouter : Host
  registryUrl : HostUrl
  owners : List String
  deriving DecidableEq

namespace OwnerPolicy

/-- The allow-set of configured owners: trimmed, blank ones left out. -/
def allowed (owners : List String) : List String :=
  (owners.map trimText).filter (· != "")

/-- A policy of configured values. -/
def make (url registryUrl : String) (owners : List String) : Except HostError OwnerPolicy :=
  match HostUrl.parse url with
  | .error e => .error e
  | .ok u =>
    match HostUrl.parse registryUrl with
    | .error e => .error e
    | .ok r => .ok ⟨⟨none, u⟩, r, allowed owners⟩

/-- The policy of a configured section, if the section is complete. -/
def ofConfig (s : Config.Subrouter) : Except HostError (Option OwnerPolicy) :=
  match s.url, s.registryUrl, s.hasOwner with
  | some url, some registryUrl, true => (make url registryUrl (s.owners.getD [])).map some
  | _, _, _ => .ok none

/-- Whether an owner is in the allow-set. -/
def isOverridden (p : OwnerPolicy) (owner : String) : Bool :=
  p.owners.contains owner

end OwnerPolicy
end AffinityGate
