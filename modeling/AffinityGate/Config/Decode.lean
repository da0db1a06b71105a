import AffinityGate.Config.Model
import AffinityGate.Data.Json
import AffinityGate.Number.FloatText
import AffinityGate.Text.Quoted

/-!
# Configuration from JSON values

A section is an object of its fields, or an array of them in the order of their declaration.
Unknown fields are ignored.  The fields of an object are read in the order of their names, so the
first faulty name decides the error.
-/

namespace AffinityGate.Config

/-- Why a JSON value is no configuration. -/
inductive DecodeError
  | wrongType (found : String) (expected : String)
  | wrongValue (found : String) (expected : String)
  | missingField (name : String)
  | unknownVariant (name : String) (known : List String)
  | tooShort (length : Nat) (expected : String)
  | tooLong (length : Nat)
  deriving DecidableEq, Repr

/-- The wording of an error. -/
def DecodeError.message : DecodeError → String
  | .wrongType found expected => "invalid type: " ++ found ++ ", expected " ++ expected
  | .wrongValue found expected => "invalid value: " ++ found ++ ", expected " ++ expected
  | .missingField name => "missing field `" ++ name ++ "`"
  | .unknownVariant name known =>
    "unknown variant `" ++ name ++ "`, expected "
      ++ " or ".intercalate (known.map fun k => "`" ++ k ++ "`")
  | .tooShort n expected => "invalid length " ++ toString n ++ ", expected " ++ expected
  | .tooLong n => "invalid length " ++ toString n ++ ", expected fewer elements in array"

namespace Decode

/-- How a value is described in an error. -/
def found : Json → String
  | .null => "null"
  | .bool b => "boolean `" ++ toString b ++ "`"
  | .int n => "integer `" ++ toString n ++ "`"
  | .float x => "floating point `" ++ FloatText.scientific x ++ "`"
  | .string s => "string " ++ Quoted.text s
  | .array _ => "sequence"
  | .object _ => "map"

/-- The error for a value of the wrong kind. -/
def wrongType {α : Type} (j : Json) (expected : String) : Except DecodeError α :=
  .error (.wrongType (found j) expected)

/-- A text. -/
def string : Json → Except DecodeError String
  | .string s => .ok s
  | j => wrongType j "a string"

/-- A truth value. -/
def bool : Json → Except DecodeError Bool
  | .bool b => .ok b
  | j => wrongType j "a boolean"

/-- A size. -/
def size : Json → Except DecodeError Nat
  | .int n => if 0 ≤ n then .ok n.toNat else .error (.wrongValue (found (.int n)) "usize")
  | j => wrongType j "usize"

/-- A list of texts. -/
def strings : Json → Except DecodeError (List String)
  | .array items => items.mapM string
  | j => wrongType j "a sequence"

/-- A value that may be null. -/
def optional {α : Type} (read : Json → Except DecodeError α) : Json → Except DecodeError (Option α)
  | .null => .ok none
  | j => (read j).map some

/-- One of several names, alone or as the only key over null. -/
def variant {α : Type} (known : List String) (ofName? : String → Option α) (j : Json) :
    Except DecodeError α :=
  let named (name : String) : Except DecodeError α :=
    match ofName? name with
    | some a => .ok a
    | none => .error (.unknownVariant name known)
  match j with
  | .string s => named s
  | .object [(name, .null)] => named name
  | .object [(name, payload)] => do
    let _ ← named name
    wrongType payload "unit"
  | .object _ => .error (.wrongValue "map" "map with a single key")
  | j => wrongType j "string or map"

/-- A unit kind. -/
def unit (j : Json) : Except DecodeError UnitKind :=
  variant ["compute", "messenger"] UnitKind.ofName? j

/-- A strategy. -/
def strategy (j : Json) : Except DecodeError Strategy :=
  variant ["proxy", "redirect"] Strategy.ofName? j

/-- The fields of a section, each with its value, in the order they are read; and for an array the
number of its items. -/
def sectionFields (name : String) (fields : List String) (j : Json) :
    Except DecodeError (List (String × Json) × Option Nat) :=
  match j with
  | .object members =>
    let known := fields.filterMap fun f => (Json.get? members f).map fun v => (f, v)
    .ok (known.mergeSort fun a b => decide (a.1 ≤ b.1), none)
  | .array items => .ok (fields.zip items, some items.length)
  | j => wrongType j ("struct " ++ name)

/-- Reads a section: each field is set in turn, then the length of an array is checked. -/
def read {α : Type} (name : String) (fields : List String) (start : α)
    (set : α → String × Json → Except DecodeError α) (j : Json) :
    Except DecodeError (α × Option Nat) := do
  let (values, length) ← sectionFields name fields j
  return (← values.foldlM set start, length)

/-- An array must not be longer than its section. -/
def checkLength (fields : List String) (length : Option Nat) : Except DecodeError Unit :=
  match length with
  | some n => if fields.length < n then .error (.tooLong n) else .ok ()
  | none => .ok ()

/-- A field that must be present: its value, or the error by its position in the section. -/
def required {α : Type} (name : String) (fields : List String) (field : String)
    (length : Option Nat) (value : Option α) : Except DecodeError α :=
  match value, length with
  | some a, _ => .ok a
  | none, none => .error (.missingField field)
  | none, some _ =>
    .error (.tooShort (fields.idxOf field)
      ("struct " ++ name ++ " with " ++ toString fields.length ++ " elements"))

/-- The limits. -/
def timeouts (j : Json) : Except DecodeError Timeouts := do
  let fields := ["attempt", "registry"]
  let set (t : Timeouts) (f : String × Json) : Except DecodeError Timeouts := do
    match f.1 with
    | "attempt" => return { t with attempt := ← string f.2 }
    | _ => return { t with registry := ← string f.2 }
  let (t, length) ← read "TimeoutConfig" fields {} set j
  checkLength fields length
  return t

/-- The override section. -/
def subrouter (j : Json) : Except DecodeError Subrouter := do
  let fields := ["url", "registry_url", "owners", "cache_ttl"]
  let set (s : Subrouter) (f : String × Json) : Except DecodeError Subrouter := do
    match f.1 with
    | "url" => return { s with url := ← optional string f.2 }
    | "registry_url" => return { s with registryUrl := ← optional string f.2 }
    | "owners" => return { s with owners := ← optional strings f.2 }
    | _ => return { s with cacheTtl := ← string f.2 }
  let (s, length) ← read "SubrouterConfig" fields {} set j
  checkLength fields length
  return s

/-- The logging section. -/
def logging (j : Json) : Except DecodeError Logging := do
  let fields := ["level", "json", "include_spans"]
  let set (l : Logging) (f : String × Json) : Except DecodeError Logging := do
    match f.1 with
    | "level" => return { l with level := ← string f.2 }
    | "json" => return { l with json := ← bool f.2 }
    | _ => return { l with includeSpans := ← bool f.2 }
  let (l, length) ← read "LoggingConfig" fields {} set j
  checkLength fields length
  return l

/-- The certificate section. -/
def tls (j : Json) : Except DecodeError Tls := do
  let name := "TlsConfig"
  let fields := ["cert_path", "key_path"]
  let set (t : Option String × Option String) (f : String × Json) :
      Except DecodeError (Option String × Option String) := do
    match f.1 with
    | "cert_path" => return (some (← string f.2), t.2)
    | _ => return (t.1, some (← string f.2))
  let (t, length) ← read name fields (none, none) set j
  let cert ← required name fields "cert_path" length t.1
  let key ← required name fields "key_path" length t.2
  checkLength fields length
  return ⟨cert, key⟩

/-- A whole configuration. -/
def config (j : Json) : Except DecodeError Config := do
  let name := "RouterConfig"
  let fields := ["listen_addr", "hosts", "unit", "strategy", "timeouts", "subrouter",
    "max_body_bytes", "logging", "tls"]
  let start : Config × Option (List String) × Option UnitKind :=
    (⟨defaultListenAddr, [], .compute, .proxy, {}, {}, defaultMaxBodyBytes, {}, none⟩, none, none)
  let set (s : Config × Option (List String) × Option UnitKind) (f : String × Json) :
      Except DecodeError (Config × Option (List String) × Option UnitKind) := do
    let (c, hosts, unit) := s
    match f.1 with
    | "listen_addr" => return ({ c with listenAddr := ← string f.2 }, hosts, unit)
    | "hosts" => return (c, some (← strings f.2), unit)
    | "unit" => return (c, hosts, some (← Decode.unit f.2))
    | "strategy" =>
      return ({ c with strategy := ← Decode.strategy f.2 }, hosts, unit)
    | "timeouts" => return ({ c with timeouts := ← timeouts f.2 }, hosts, unit)
    | "subrouter" => return ({ c with subrouter := ← subrouter f.2 }, hosts, unit)
    | "max_body_bytes" => return ({ c with maxBodyBytes := ← size f.2 }, hosts, unit)
    | "logging" => return ({ c with logging := ← logging f.2 }, hosts, unit)
    | _ => return ({ c with tls := ← optional tls f.2 }, hosts, unit)
  let ((c, hosts, unit), length) ← read name fields start set j
  let hosts ← required name fields "hosts" length hosts
  let unit ← required name fields "unit" length unit
  checkLength fields length
  return { c with hosts := hosts, unit := unit }

end Decode
end AffinityGate.Config
