import AffinityGate.Serving.Handler

/-!
# The request pipeline

Every request gets an id, which the response repeats, and within that its start and end are traced.
Innermost is the handler, behind the routes of the server.  The server states the length of a
response that does not, and sends no body for `HEAD`.
-/

namespace AffinityGate.App

variable {σ : Type}

/-- The id of a request: the first one it brings along, unless that is empty, else a fresh one. -/
def requestId (headers : Http.Headers) (fresh : Bytes) : Bytes :=
  match headers.get? .requestId with
  | some v => if v.isEmpty then fresh else v
  | none => fresh

/-- The request carries its id, and so does the response. -/
def withRequestId (fresh : Bytes)
    (next : Http.Arrival → Situation σ → Answered σ Http.Response)
    (request : Http.Arrival) (s : Situation σ) : Answered σ Http.Response :=
  let id := requestId request.headers fresh
  let a := next { request with headers := request.headers.put .requestId id } s
  ⟨{ a.result with headers := a.result.headers.put .requestId id }, a.effects, a.after⟩

/-- Start and end of a request are traced. -/
def withTiming (next : Http.Arrival → Situation σ → Answered σ Http.Response)
    (request : Http.Arrival) (s : Situation σ) : Answered σ Http.Response :=
  let uri := Failover.shown request.uri.text
  let a := next request s
  ⟨a.result,
   .event .debug ("Started processing " ++ request.method.text ++ " " ++ uri ++ " HTTP/1.1") []
     :: a.effects ++ [.event .info "request completed" [("http.method", request.method.text),
       ("http.uri", uri), ("http.status_code", toString a.result.status)]],
   a.after⟩

/-- The response states its length, and has no body if only its head was asked for. -/
def framed (method : Http.Method) (r : Http.Response) : Http.Response :=
  let length := Utf8.ofText (toString r.body.length)
  ⟨r.status, r.headers.putIfAbsent .contentLength length, if method = .head then [] else r.body⟩

/-- The layers around whatever answers requests: the timing is the innermost one, and the server
frames what comes out of all of them. -/
def layered (fresh : Bytes) (next : Http.Arrival → Situation σ → Answered σ Http.Response)
    (request : Http.Arrival) (s : Situation σ) : Answered σ Http.Response :=
  let a := withRequestId fresh (withTiming next) request s
  { a with result := framed request.method a.result }

/-- Whether a route leads to a target.  There is one for the root and one for all that is below it,
which leaves out `*` and bare authorities only. -/
def isRouted (uri : Http.Uri) : Bool :=
  uri.path.head? == some 0x2F

/-- What no route leads to is not found. -/
def routed (next : Http.Arrival → Situation σ → Answered σ Http.Response) (request : Http.Arrival)
    (s : Situation σ) : Answered σ Http.Response :=
  if isRouted request.uri then next request s else ⟨⟨404, [], []⟩, [], s⟩

/-- The pipeline, with the handler behind every target. -/
def handle (h : Handler) (out : Outside σ) (timestamp : String) (fresh : Bytes)
    (client : Option Net.Ip) (request : Http.Arrival) (s : Situation σ) :
    Answered σ Http.Response :=
  layered fresh (h.handle out timestamp client) request s

/-- The pipeline as the server runs it, with the handler behind its routes. -/
def serve (h : Handler) (out : Outside σ) (timestamp : String) (fresh : Bytes)
    (client : Option Net.Ip) (request : Http.Arrival) (s : Situation σ) :
    Answered σ Http.Response :=
  layered fresh (routed (h.handle out timestamp client)) request s

end AffinityGate.App
