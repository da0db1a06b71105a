import AffinityGate.Host.Client
import AffinityGate.Registry.Answer
import AffinityGate.Url.Reference

/-!
# Asking an owner registry

A lookup is one request to the registry's endpoint.  A redirection is followed, and what the
endpoint finally answers is interpreted.
-/

namespace AffinityGate.Registry

/-- The question that asks for the owners of processes. -/
def ownerQuery : String :=
  "query($ids: [ID!]!) \x7b transactions(ids: $ids) \x7b edges \x7b node \x7b owner \x7b address \x7d "
    ++ "\x7d \x7d \x7d \x7d"

/-- The body of a lookup. -/
def question (id : ProcessId) : Json :=
  .object [("query", .string ownerQuery),
    ("variables", .object [("ids", .array [.string id.text])])]

/-- The target of an endpoint as it is requested. -/
def target? (endpoint : HostUrl) : Option Http.Uri :=
  match Url.parse endpoint.text.toList with
  | .error _ => none
  | .ok u => (Http.Uri.parse (Utf8.ofText u.baseText)).toOption

/-- A lookup as a request to a target. -/
def request (target : Http.Uri) (id : ProcessId) : Http.Request :=
  ⟨.post, target,
    [(.contentType, Utf8.ofText "application/json"), (.userAgent, Utf8.ofText Client.userAgent),
      (.host, target.hostAndPort)],
    Utf8.ofText (question id).render⟩

/-- Statuses that send the request elsewhere. -/
def isRedirection (status : Nat) : Bool :=
  [301, 302, 303, 307, 308].contains status

/-- Whether an answer names a place that the request can be sent to instead. -/
def isFollowed (target : Http.Uri) (a : Http.Received) : Bool :=
  isRedirection a.status
    && (a.headers.get? .location).any fun place => Url.Reference.canFollow target.text place

/-- The error for an endpoint that gave no answer. -/
def unanswered (target : Http.Uri) : RegistryError :=
  .request ("error sending request for url (" ++ String.ofList (Utf8.lossy target.text) ++ ")")

/-- What the exchange with an endpoint says about the owner, where no place that a redirection
names can be reached. -/
def lookup (peer : Client.Peer) (endpoint : HostUrl) (id : ProcessId) :
    Option Http.Written × Except RegistryError (Option String) :=
  match target? endpoint with
  | none => (none, .error (.request "builder error"))
  | some target =>
    let (written, answer) := Client.exchange peer (request target id)
    (written, match answer with
      | .error _ => .error (unanswered target)
      | .ok a =>
        if isFollowed target a then .error (unanswered target) else interpret a.status a.body)

end AffinityGate.Registry
