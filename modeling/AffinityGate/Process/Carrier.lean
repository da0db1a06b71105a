import AffinityGate.Http.Uri
import AffinityGate.Process.DataItem
import AffinityGate.Text.Form

/-!
# Where a request carries its process id

The query parameter `process-id` comes first, then the path, then, behind a messenger unit, a data
item in the body.  A carrier that names no process leaves the decision to the next one.
-/

namespace AffinityGate

/-- The kind of unit behind the gateway. -/
inductive UnitKind
  | compute
  | messenger
  deriving DecidableEq, Repr

namespace UnitKind

/-- The name of a unit kind. -/
def name : UnitKind → String
  | .compute => "compute"
  | .messenger => "messenger"

/-- The unit kind of a name. -/
def ofName? : String → Option UnitKind
  | "compute" => some .compute
  | "messenger" => some .messenger
  | _ => none

/-- First path segments that are followed by a process id. -/
def pathHeads : UnitKind → List String
  | .compute => ["state", "cron", "results"]
  | .messenger => ["monitor"]

end UnitKind

/-- What a request says about its process.  The owner is known only for a process that the request
itself starts. -/
structure Extracted where
  processId : ProcessId
  spawnOwner : Option String
  deriving DecidableEq

namespace Extracted

/-- The query parameter that every unit accepts. -/
def queryKey : String := "process-id"

/-- The id in the first pair with the key. -/
def ofQuery? (query : Bytes) : Option ProcessId :=
  (Form.first? queryKey.toList query).bind fun v => ProcessId.ofText? (String.ofList v)

/-- The id in a path segment: decoded, and none if the bytes are no UTF-8. -/
def ofSegment? (segment : Bytes) : Option ProcessId :=
  (Utf8.text? (Percent.decode segment)).bind ProcessId.ofText?

/-- The id in the second segment of a path whose first segment is a head. -/
def ofPath? (heads : List String) (path : Bytes) : Option ProcessId :=
  match (pieces (0x2F : UInt8) path).filter (!·.isEmpty) with
  | head :: segment :: _ =>
    if (heads.map Utf8.ofText).contains head then ofSegment? segment else none
  | _ => none

/-- The id, and for a spawn the signer, in a body. -/
def ofBody? (body : Bytes) : Option Extracted :=
  match DataItem.read? body with
  | none => none
  | some d => d.processId?.map fun p => ⟨p, if d.isSpawn then some d.ownerAddress else none⟩

/-- What a request says about its process, by the unit kind. -/
def ofRequest? (unit : UnitKind) (uri : Http.Uri) (body : Bytes) : Option Extracted :=
  match uri.query?.bind ofQuery? with
  | some p => some ⟨p, none⟩
  | none =>
    match ofPath? unit.pathHeads uri.path with
    | some p => some ⟨p, none⟩
    | none =>
      match unit with
      | .compute => none
      | .messenger => ofBody? body

end Extracted
end AffinityGate
