import AffinityGate.Http.Written
import AffinityGate.Routing.Outside

/-!
# Sending requests to hosts

A request goes to the authority of its target, which also becomes its `Host` header.  Whatever a
host answers is an answer; only failing to get one is an error.
-/

namespace AffinityGate.Client

/-- What a peer at a host and port does: refuse a connection, or answer with bytes and close. -/
abbrev Peer := Bytes → Nat → Option Bytes

/-- How this client names itself. -/
def userAgent : String := "unit-router/0.1.0"

/-- Why no answer was received. -/
inductive Failure
  | relativeTarget
  | connect
  | exchange
  deriving DecidableEq, Repr

/-- The wording of a failure. -/
def Failure.message : Failure → String
  | .relativeTarget => "client error (UserAbsoluteUriRequired)"
  | .connect => "client error (Connect)"
  | .exchange => "client error (SendRequest)"

/-- Names the target's authority in `Host`, and the client where no client is named. -/
def prepare (r : Http.Request) : Except ClientError Http.Request :=
  if r.uri.authority.isEmpty then .error (.invalidRequest "Outgoing URI has no host")
  else
    .ok { r with
      headers := (r.headers.put .host r.uri.authority).putIfAbsent .userAgent
        (Utf8.ofText userAgent) }

/-- Preparing leaves every header but the host and the name of the client. -/
theorem values_of_prepare {r prepared : Http.Request} (h : prepare r = .ok prepared)
    {n : Http.HeaderName} (hhost : n ≠ .host) (hagent : n ≠ .userAgent) :
    prepared.headers.values n = r.headers.values n := by
  unfold prepare at h
  split at h
  · cases h
  · cases h
    rw [Http.Headers.values_putIfAbsent, if_neg fun hn => hagent hn.1,
      Http.Headers.values_put_of_ne _ _ hhost]

/-- The failure of a request as an error of the client. -/
def failed (r : Http.Request) (f : Failure) : ClientError :=
  .connection ("Request to " ++ r.method.text ++ " " ++ String.ofList (Utf8.lossy r.uri.text)
    ++ " failed: " ++ f.message)

/-- What a peer answers to a connection for a target; only plain connections are answered. -/
def reply? (peer : Peer) (uri : Http.Uri) : Option Bytes :=
  if uri.scheme = some (Utf8.ofText "http") then peer uri.host (uri.port?.getD 80) else none

/-- One exchange: the request as the peer received it, if a connection was made, and the response. -/
def exchange (peer : Peer) (r : Http.Request) :
    Option Http.Written × Except Failure Http.Received :=
  if r.uri.scheme.isNone ∧ r.method ≠ .connect then (none, .error .relativeTarget)
  else
    match reply? peer r.uri with
    | none => (none, .error .connect)
    | some bytes =>
      (some (.ofRequest r),
        match Http.Received.read? r.method bytes with
        | some a => .ok a
        | none => .error .exchange)

/-- Sends a request.  The coding of the answer's body is undone, so it is not passed on. -/
def send (peer : Peer) (r : Http.Request) :
    Option Http.Written × Except ClientError Http.Received :=
  match prepare r with
  | .error e => (none, .error e)
  | .ok prepared =>
    let (written, answer) := exchange peer prepared
    (written, match answer with
      | .ok a => .ok { a with headers := a.headers.erase .transferEncoding }
      | .error f => .error (failed r f))

/-- Whatever is written in an exchange is the request. -/
theorem written_of_exchange {peer : Peer} {r : Http.Request} {written : Http.Written}
    (h : (exchange peer r).1 = some written) : written = .ofRequest r := by
  unfold exchange at h
  split at h
  · cases h
  · split at h
    · cases h
    · exact (Option.some.inj h).symm

/-- A peer that receives a request receives it as it was prepared. -/
theorem prepared_of_send {peer : Peer} {r : Http.Request} {written : Http.Written}
    {answer : Except ClientError Http.Received} (h : send peer r = (some written, answer)) :
    ∃ prepared, prepare r = .ok prepared ∧ written = .ofRequest prepared := by
  unfold send at h
  cases hprepared : prepare r with
  | error e =>
    rw [hprepared] at h
    cases h
  | ok prepared =>
    rw [hprepared] at h
    exact ⟨prepared, rfl, written_of_exchange (congrArg Prod.fst h)⟩

/-- A peer receives the request as it was handed over, but for the headers that name the host and
the client and those that frame the body. -/
theorem values_of_send {peer : Peer} {r : Http.Request} {written : Http.Written}
    {answer : Except ClientError Http.Received} (h : send peer r = (some written, answer))
    {n : Http.HeaderName} (hhost : n ≠ .host) (hagent : n ≠ .userAgent)
    (hlength : n ≠ .contentLength) (hcoding : n ≠ .transferEncoding) :
    written.headers.values n = r.headers.values n := by
  obtain ⟨prepared, hprepared, rfl⟩ := prepared_of_send h
  rw [Http.Written.ofRequest, Http.Written.values_framed_of_ne _ _ hlength hcoding,
    values_of_prepare hprepared hhost hagent]

/-- No peer receives a header that the request does not have, but those that name the host and the
client and tell the length. -/
theorem values_of_send_eq_nil {peer : Peer} {r : Http.Request} {written : Http.Written}
    {answer : Except ClientError Http.Received} (h : send peer r = (some written, answer))
    {n : Http.HeaderName} (hhost : n ≠ .host) (hagent : n ≠ .userAgent)
    (hlength : n ≠ .contentLength) (hnone : r.headers.values n = []) :
    written.headers.values n = [] := by
  obtain ⟨prepared, hprepared, rfl⟩ := prepared_of_send h
  refine Http.Written.values_framed_eq_nil hlength ?_
  rw [values_of_prepare hprepared hhost hagent, hnone]

end AffinityGate.Client
