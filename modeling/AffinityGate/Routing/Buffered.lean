import AffinityGate.Routing.Outside

/-!
# Requests that can be replayed

A buffered request has its whole body and none of the headers that belong to one connection, so the
same request can be addressed at one host after another.
-/

namespace AffinityGate

/-- A request to be addressed at hosts. -/
structure Buffered where
  method : Http.Method
  pathAndQuery : Bytes
  headers : Http.Headers
  body : Bytes
  deriving DecidableEq

namespace Buffered

/-- Headers that belong to one connection. -/
def hopByHop : List Http.HeaderName :=
  [.connection, .keepAlive, .proxyConnection, .te, .trailer, .transferEncoding, .upgrade]

/-- Headers that are not passed on. -/
def dropped : List Http.HeaderName :=
  .host :: hopByHop

/-- A request without the headers that are not passed on. -/
def make (method : Http.Method) (pathAndQuery : Bytes) (headers : Http.Headers) (body : Bytes) :
    Buffered :=
  ⟨method, pathAndQuery, headers.filter fun h => !dropped.contains h.1, body⟩

/-- The request addressed at a host. -/
def addressed (r : Buffered) (host : Host) : Except ClientError Http.Request :=
  match Http.Uri.parse (host.url.join r.pathAndQuery) with
  | .error e => .error (.invalidRequest e.message)
  | .ok uri => .ok ⟨r.method, uri, r.headers, r.body⟩

end Buffered
end AffinityGate
