import AffinityGate.Http.Headers
import AffinityGate.Http.Uri

/-!
# Requests and responses

An outgoing request and a response have whole bodies.  An arriving request has a body that comes in
chunks and may break off.
-/

namespace AffinityGate.Http

/-- A request with its body. -/
structure Request where
  method : Method
  uri : Uri
  headers : Headers
  body : Bytes
  deriving DecidableEq

/-- A response with its body. -/
structure Response where
  status : Nat
  headers : Headers
  body : Bytes
  deriving DecidableEq

/-- A body as it arrives: chunks, then its end or a failure. -/
structure BodyStream where
  chunks : List Bytes
  failure : Option String
  deriving DecidableEq

/-- A request as it arrives. -/
structure Arrival where
  method : Method
  uri : Uri
  headers : Headers
  body : BodyStream
  deriving DecidableEq

/-- A body that arrives in one piece. -/
def BodyStream.ofBytes (bs : Bytes) : BodyStream := ⟨[bs], none⟩

end AffinityGate.Http
