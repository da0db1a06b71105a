import AffinityGate.Config.Model
import AffinityGate.Routing.Buffered

/-!
# Failover

In proxy mode the candidates are tried in order; the first one that answers, whatever it answers,
ends the pass, and if none does the last failure is reported.  In redirect mode no host is
contacted: the client is sent to the first candidate.
-/

namespace AffinityGate

/-- A request that was served: by whom, and after how many contacts. -/
structure Dispatched where
  response : Http.Response
  host : Host
  attempts : Nat
  deriving DecidableEq

/-- Why no candidate served a request. -/
inductive FailoverError
  | exhausted (host : Host) (attempts : Nat) (last : ClientError)
  | emptySequence
  | redirect (text : String)
  deriving DecidableEq

namespace FailoverError

/-- The wording of an error. -/
def message : FailoverError → String
  | .exhausted host attempts last =>
    "all " ++ toString attempts ++ " candidate host(s) unreachable; last failure from "
      ++ host.url.text ++ ": " ++ last.message
  | .emptySequence => "candidate sequence is empty"
  | .redirect t => "failed to build redirect response: " ++ t

/-- Whether the last failure was a timeout. -/
def isTimeout : FailoverError → Bool
  | .exhausted _ _ last => last.isTimeout
  | _ => false

/-- The host that was tried last. -/
def lastHost : FailoverError → Option Host
  | .exhausted host _ _ => some host
  | _ => none

end FailoverError

/-- A finished activity: its result, its effects in order, the milliseconds it took, and the
outside after it. -/
structure Finished (σ α : Type) where
  result : α
  effects : List Effect
  elapsed : Nat
  world : σ

namespace Failover

variable {σ : Type}

/-- The characters of well-formed bytes as text. -/
def shown (bs : Bytes) : String :=
  String.ofList (Utf8.lossy bs)

/-- One candidate is tried: it fails if the request cannot be addressed at it, if the client port
reports an error, or if it does not answer before the timer of the limit goes off. -/
def attempt (out : Outside σ) (limit : Duration) (request : Buffered) (host : Host) (w : σ) :
    Finished σ (Except ClientError Http.Response) :=
  match request.addressed host with
  | .error e => ⟨.error e, [], 0, w⟩
  | .ok outgoing =>
    let (reaction, w) := out.serve outgoing w
    match reaction.within limit.timerMillis with
    | (some answer, millis) => ⟨answer, [.sent outgoing], millis, w⟩
    | (none, millis) => ⟨.error (.timeout limit), [.sent outgoing], millis, w⟩

/-- The span of one attempt. -/
def attemptSpan (request : Buffered) (host : Host) (position : Nat) : Effect :=
  .traced (.span "host_attempt" [("host.url", host.url.text),
    ("attempt.position", toString position), ("http.method", request.method.text),
    ("http.path", shown request.pathAndQuery)])

/-- What follows an attempt that was answered. -/
def reached (host : Host) (position status : Nat) : List Effect :=
  [.counted (.attempts true),
   .event .debug "host reached" [("host", host.url.text), ("status", toString status),
     ("attempt", toString (position + 1))]]

/-- What follows an attempt that failed. -/
def unreachable (host : Host) (position remaining : Nat) (e : ClientError) : List Effect :=
  [.counted (.attempts false),
   .event .warn "host unreachable" [("host", host.url.text), ("attempt", toString (position + 1)),
     ("remaining", toString remaining), ("error", e.message)]]

/-- One pass over the candidates from `position` on. -/
def pass (out : Outside σ) (limit : Duration) (request : Buffered) :
    Nat → List Host → σ → Finished σ (Except FailoverError Dispatched)
  | _, [], w => ⟨.error .emptySequence, [], 0, w⟩
  | position, host :: rest, w =>
    let a := attempt out limit request host w
    let start := attemptSpan request host position :: a.effects
    match a.result with
    | .ok response =>
      ⟨.ok ⟨response, host, position + 1⟩, start ++ reached host position response.status,
        a.elapsed, a.world⟩
    | .error e =>
      let effects := start ++ unreachable host position rest.length e
      match rest with
      | [] => ⟨.error (.exhausted host (position + 1) e), effects, a.elapsed, a.world⟩
      | _ :: _ =>
        let r := pass out limit request (position + 1) rest a.world
        ⟨r.result, effects ++ r.effects, a.elapsed + r.elapsed, r.world⟩

/-- Proxy mode. -/
def proxy (out : Outside σ) (limit : Duration) (request : Buffered) (candidates : List Host)
    (w : σ) : Finished σ (Except FailoverError Dispatched) :=
  pass out limit request 0 candidates w

/-- Redirect mode: the first candidate's URL for the request, which must be a header value. -/
def redirect (request : Buffered) (candidates : List Host) (w : σ) :
    Finished σ (Except FailoverError Dispatched) :=
  match candidates with
  | [] => ⟨.error .emptySequence, [], 0, w⟩
  | host :: _ =>
    let location := host.url.join request.pathAndQuery
    let effects := [Effect.event .debug "redirecting to primary host"
      [("host", host.url.text), ("location", shown location)]]
    if Http.isHeaderValue location then
      ⟨.ok ⟨⟨307, [(.location, location)], []⟩, host, 0⟩, effects, 0, w⟩
    else
      ⟨.error (.redirect "failed to parse header value"), effects, 0, w⟩

/-- The candidates are served by the configured strategy. -/
def execute (out : Outside σ) (limit : Duration) (strategy : Strategy) (request : Buffered)
    (candidates : List Host) (w : σ) : Finished σ (Except FailoverError Dispatched) :=
  match strategy with
  | .proxy => proxy out limit request candidates w
  | .redirect => redirect request candidates w

end Failover
end AffinityGate
