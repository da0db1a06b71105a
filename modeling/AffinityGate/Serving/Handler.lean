import AffinityGate.Data.Json
import AffinityGate.Net.Address
import AffinityGate.Routing.Dispatch

/-!
# Answering requests

`/health` is answered by the gateway itself; any other request is marked with where it came from
and dispatched, and an error becomes a plain response.
-/

namespace AffinityGate

/-- An error as the client sees it. -/
inductive HandlerError
  | badRequest (text : String)
  | payloadTooLarge (text : String)
  | badGateway (text : String)
  | gatewayTimeout (text : String)
  | internal (text : String)
  deriving DecidableEq, Repr

namespace HandlerError

/-- The wording of an error. -/
def message : HandlerError → String
  | .badRequest t => "Bad request: " ++ t
  | .payloadTooLarge t => "Payload too large: " ++ t
  | .badGateway t => "Bad gateway: " ++ t
  | .gatewayTimeout t => "Gateway timeout: " ++ t
  | .internal t => "Internal server error: " ++ t

/-- The status of an error. -/
def status : HandlerError → Nat
  | .badRequest _ => 400
  | .payloadTooLarge _ => 413
  | .badGateway _ => 502
  | .gatewayTimeout _ => 504
  | .internal _ => 500

/-- How a dispatch error is reported to the client. -/
def ofDispatch (e : DispatchError) : HandlerError :=
  match e with
  | .missingProcessId => .badRequest e.message
  | .bodyTooLarge _ => .payloadTooLarge e.message
  | .bodyRead _ => .badRequest e.message
  | .failover cause =>
    if cause.isTimeout then .gatewayTimeout e.message
    else if cause = .emptySequence then .internal e.message
    else .badGateway e.message

/-- The plain response of an error. -/
def response (e : HandlerError) : Http.Response :=
  ⟨e.status, [(.contentType, Utf8.ofText "text/plain; charset=utf-8")], Utf8.ofText e.message⟩

/-- The trace of an error. -/
def event (e : HandlerError) : Effect :=
  let fields := [("status", toString e.status), ("error", e.message)]
  if 500 ≤ e.status then .event .error "request failed" fields
  else .event .info "request rejected" fields

end HandlerError

/-- The version that is reported. -/
def version : String := "0.1.0"

/-- A gateway that answers requests; `secure` tells whether its listener speaks TLS. -/
structure Handler where
  dispatcher : Dispatcher
  secure : Bool
  deriving DecidableEq

namespace Handler

variable {σ : Type}

/-- The forwarding chain with the client at its end. -/
def forwardedFor (headers : Http.Headers) (client : Net.Ip) : Bytes :=
  match (headers.get? .forwardedFor).bind Http.visibleText? with
  | some existing =>
    if trimText existing = "" then Utf8.ofText client.text
    else Utf8.ofText (trimText existing ++ ", " ++ client.text)
  | none => Utf8.ofText client.text

/-- The client joins the forwarding chain; host and protocol are filled in where no one did. -/
def addForwarded (headers : Http.Headers) (client : Option Net.Ip) (secure : Bool) : Http.Headers :=
  let headers := match client with
    | some ip => headers.put .forwardedFor (forwardedFor headers ip)
    | none => headers
  let headers := match headers.has .forwardedHost, headers.get? .host with
    | false, some host => headers.put .forwardedHost host
    | _, _ => headers
  headers.putIfAbsent .forwardedProto (Utf8.ofText (if secure then "https" else "http"))

/-- What `/health` reports. -/
def health (h : Handler) (timestamp : String) : Json :=
  .object [("status", .string "healthy"), ("unit", .string h.dispatcher.unit.name),
    ("strategy", .string h.dispatcher.strategy.name), ("hosts", .int h.dispatcher.pool.size),
    ("subrouter_enabled", .bool h.dispatcher.subrouterEnabled), ("version", .string version),
    ("timestamp", .string timestamp)]

/-- The name of a request's span. -/
def spanName : String := "request"

/-- The span of a request. -/
def requestSpan (request : Http.Arrival) : Effect :=
  let id := ((request.headers.get? .requestId).bind Http.visibleText?).getD ""
  .traced (.span spanName [("http.method", request.method.text),
    ("http.path", Failover.shown request.uri.path), ("request.id", id)])

/-- Dispatches a request and turns an error into a response. -/
def routed (h : Handler) (out : Outside σ) (client : Option Net.Ip) (request : Http.Arrival)
    (s : Situation σ) : Answered σ Http.Response :=
  let marked := { request with headers := addForwarded request.headers client h.secure }
  let a := h.dispatcher.dispatch out (some spanName) marked s
  let (response, effects) := match a.result with
    | .ok r => (r, [])
    | .error e => let e := HandlerError.ofDispatch e; (e.response, [e.event])
  ⟨response,
   requestSpan request :: a.effects ++ effects
     ++ [.traced (.record spanName [("http.status_code", toString response.status)])],
   a.after⟩

/-- Answers a request. -/
def handle (h : Handler) (out : Outside σ) (timestamp : String) (client : Option Net.Ip)
    (request : Http.Arrival) (s : Situation σ) : Answered σ Http.Response :=
  if request.uri.path = Utf8.ofText "/health" then
    ⟨⟨200, [(.contentType, Utf8.ofText "application/json")],
      Utf8.ofText (h.health timestamp).render⟩, [], s⟩
  else h.routed out client request s

end Handler
end AffinityGate
