import AffinityGate.Text.Blank
import AffinityGate.Url.Parse

/-!
# Base URLs of hosts

A host is configured by an absolute `http` or `https` URL without query and fragment.  The stored
text is the configured one less the surrounding blanks and the slashes at its end; request paths
are appended to it by `join`.
-/

namespace AffinityGate

/-- What is wrong with a base URL. -/
inductive HostFault
  | scheme
  | url (cause : Url.Error)
  | noHost
  | queryOrFragment
  deriving DecidableEq, Repr

/-- The base URL of a host. -/
structure HostUrl where
  text : String
  isSecure : Bool
  deriving DecidableEq, Repr

/-- Why hosts cannot be configured as given. -/
inductive HostError
  | invalidUrl (raw : String) (fault : HostFault)
  | emptyPool
  | duplicate (text : String)
  deriving DecidableEq, Repr

/-- The wording of an error. -/
def HostError.message : HostError → String
  | .invalidUrl raw fault =>
    "Invalid host URL: " ++
      match fault with
      | .scheme => "Host URL must start with http:// or https://, got: " ++ raw
      | .url e => raw ++ ": " ++ e.message
      | .noHost => raw ++ ": missing host"
      | .queryOrFragment => raw ++ ": base URL must not carry a query or fragment"
  | .emptyPool => "Host pool must contain at least one host"
  | .duplicate text => "Duplicate host URL in pool: " ++ text

namespace HostUrl

/-- Slashes removed from the end. -/
def dropSlashes (cs : List Char) : List Char :=
  (cs.reverse.dropWhile (· == '/')).reverse

/-- The stored form of a configured text. -/
def stored (cs : List Char) : List Char :=
  dropSlashes (trim cs)

/-- What is wrong with a stored form. -/
def fault? (cs : List Char) : Option HostFault :=
  if (stripStart? "https://".toList cs).isNone ∧ (stripStart? "http://".toList cs).isNone then
    some .scheme
  else
    match Url.parse cs with
    | .error e => some (.url e)
    | .ok u =>
      if u.host.isNone then some .noHost
      else if u.query.isSome ∨ u.fragment.isSome then some .queryOrFragment
      else none

/-- Reads a configured base URL. -/
def parse (raw : String) : Except HostError HostUrl :=
  let cs := stored raw.toList
  match fault? cs with
  | some f => .error (.invalidUrl raw f)
  | none => .ok ⟨String.ofList cs, (stripStart? "https://".toList cs).isSome⟩

/-- A path and query appended; a slash is put between where it brings none. -/
def join (h : HostUrl) (pathAndQuery : Bytes) : Bytes :=
  Utf8.ofText h.text ++
    match pathAndQuery with
    | 0x2F :: _ => pathAndQuery
    | _ => 0x2F :: pathAndQuery

end HostUrl
end AffinityGate
