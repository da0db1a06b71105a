import AffinityGate.Config.Model
import AffinityGate.Config.Setting
import AffinityGate.Number.FloatText
import AffinityGate.Text.Quoted

/-!
# Configuration from settings

Settings are generous: a number or a truth value can be a text, a text or a number a truth value.
A fault tells where the setting is that does not fit, and for single values where it comes from.
-/

namespace AffinityGate.Config

/-- What is wrong with a setting. -/
inductive Misfit
  | missing
  | value (found expected : String) (origin : Option String)
  | shape (text : String)
  deriving DecidableEq, Repr

/-- A setting that does not fit, by its path. -/
structure FitError where
  path : List Setting.Step
  misfit : Misfit
  deriving DecidableEq, Repr

namespace FitError

/-- A path as it is written. -/
def pathText : List Setting.Step → String
  | [] => ""
  | .name k :: rest =>
    k ++ (match rest with
      | .name _ :: _ => "."
      | _ => "") ++ pathText rest
  | .position i :: rest =>
    "[" ++ toString i ++ "]" ++ (match rest with
      | .name _ :: _ => "."
      | _ => "") ++ pathText rest

/-- The wording of an error. -/
def message (e : FitError) : String :=
  let key := " for key `" ++ pathText e.path ++ "`"
  match e.misfit with
  | .missing => "missing configuration field \"" ++ pathText e.path ++ "\""
  | .value found expected origin =>
    "invalid type: " ++ found ++ ", expected " ++ expected ++ key
      ++ ((origin.map (" in " ++ ·)).getD "")
  | .shape text => text ++ key

end FitError

namespace Fit

/-- The fault of a setting itself. -/
def fail {α : Type} (m : Misfit) : Except FitError α :=
  .error ⟨[], m⟩

/-- Tells where faults are found. -/
def within {α : Type} (step : Setting.Step) (r : Except FitError α) : Except FitError α :=
  r.mapError fun e => { e with path := step :: e.path }

/-- How a setting is described where a single value was expected. -/
def foundValue : Setting → String
  | .scalar _ .null => "unit value"
  | .scalar _ (.bool b) => "boolean `" ++ toString b ++ "`"
  | .scalar _ (.int n) => "64-bit integer `" ++ toString n ++ "`"
  | .scalar _ (.float x) => "floating point `" ++ FloatText.positional false x ++ "`"
  | .scalar _ (.text s) => "string " ++ Quoted.text s
  | .list _ _ => "sequence"
  | .table _ _ => "map"

/-- How a setting is described where a list or a section was expected. -/
def foundShape : Setting → String
  | .scalar _ (.int n) => "integer `" ++ toString n ++ "`"
  | .scalar _ (.float x) => "floating point `" ++ FloatText.positional true x ++ "`"
  | s => foundValue s

/-- The fault of a setting that is not the expected single value. -/
def wrongValue {α : Type} (s : Setting) (expected : String) : Except FitError α :=
  fail (.value (foundValue s) expected s.origin?)

/-- The fault of a setting that is not the expected list or section. -/
def wrongShape {α : Type} (s : Setting) (expected : String) : Except FitError α :=
  fail (.shape ("invalid type: " ++ foundShape s ++ ", expected " ++ expected))

/-- A text. -/
def text : Setting → Except FitError String
  | .scalar _ (.text s) => .ok s
  | .scalar _ (.bool b) => .ok (toString b)
  | .scalar _ (.int n) => .ok (toString n)
  | .scalar _ (.float x) => .ok (FloatText.positional false x)
  | s => wrongValue s "a string"

/-- A truth value. -/
def bool : Setting → Except FitError Bool
  | .scalar _ (.bool b) => .ok b
  | .scalar _ (.int n) => .ok (n != 0)
  | .scalar _ (.float x) => .ok (x != 0.0)
  | .scalar o (.text s) =>
    let lower := String.ofList (s.toList.map Char.toLower)
    if ["1", "true", "on", "yes"].contains lower then .ok true
    else if ["0", "false", "off", "no"].contains lower then .ok false
    else wrongValue (.scalar o (.text lower)) "a boolean"
  | s => wrongValue s "a boolean"

/-- A size.  Fractions are rounded, a half away from zero, and kept within a word. -/
def size : Setting → Except FitError Nat
  | .scalar _ (.bool b) => .ok b.toNat
  | .scalar o (.int n) =>
    if 0 ≤ n then .ok n.toNat
    else wrongValue (.scalar o (.int n)) "an unsigned 64 bit or less integer"
  | .scalar _ (.float x) => .ok x.round.toUInt64.toNat
  | .scalar o (.text s) =>
    let lower := String.ofList (s.toList.map Char.toLower)
    if ["true", "on", "yes"].contains lower then .ok 1
    else if ["false", "off", "no"].contains lower then .ok 0
    else
      match Decimal.unsigned? s.toList with
      | some n => .ok n
      | none => wrongValue (.scalar o (.text s)) "an integer"
  | s => wrongValue s "an integer"

/-- A list of texts. -/
def texts : Setting → Except FitError (List String)
  | .list _ items =>
    (items.zipIdx).mapM fun p => within (.position p.2) (text p.1)
  | s => wrongShape s "a sequence"

/-- A setting that may be absent. -/
def optional {α : Type} (read : Setting → Except FitError α) :
    Setting → Except FitError (Option α)
  | .scalar _ .null => .ok none
  | s => (read s).map some

/-- One of several names, alone or as the only key of a table. -/
def variant {α : Type} (type : String) (ofName? : String → Option α) (s : Setting) :
    Except FitError α :=
  let named (name : String) : Except FitError α :=
    match ofName? name with
    | some a => .ok a
    | none =>
      fail (.shape ("enum " ++ type ++ " does not have variant constructor " ++ name))
  match s with
  | .scalar _ (.text name) => named name
  | .table _ [(name, _)] => named name
  | _ =>
    fail (.shape ("value of enum " ++ type
      ++ " should be represented by either string or table with exactly one key"))

/-- A section that is being read: a table by names, or a list in the order of its fields. -/
structure Part where
  type : String
  fields : List String
  setting : Setting

/-- A section; other settings are none. -/
def part (type : String) (fields : List String) (s : Setting) : Except FitError Part :=
  match s with
  | .table _ _ | .list _ _ => .ok ⟨type, fields, s⟩
  | _ => wrongShape s ("struct " ++ type)

/-- The setting of a field and the step that leads to it. -/
def Part.field? (p : Part) (field : String) : Option (Setting.Step × Setting) :=
  match p.setting with
  | .list _ items =>
    let i := p.fields.idxOf field
    items[i]?.map fun s => (.position i, s)
  | s => (s.get? field).map fun s => (.name field, s)

/-- A field with a value for when it is missing. -/
def Part.given {α : Type} (p : Part) (field : String) (fallback : α)
    (read : Setting → Except FitError α) : Except FitError α :=
  match p.field? field with
  | some (step, s) => within step (read s)
  | none => .ok fallback

/-- A field that may not be missing. -/
def Part.required {α : Type} (p : Part) (field : String) (read : Setting → Except FitError α) :
    Except FitError α :=
  match p.field? field, p.setting with
  | some (step, s), _ => within step (read s)
  | none, .list _ items =>
    fail (.shape ("invalid length " ++ toString items.length ++ ", expected struct " ++ p.type
      ++ " with " ++ toString p.fields.length ++ " elements"))
  | none, _ => .error ⟨[.name field], .missing⟩

/-- The limits. -/
def timeouts (s : Setting) : Except FitError Timeouts := do
  let p ← part "TimeoutConfig" ["attempt", "registry"] s
  let base : Timeouts := {}
  return ⟨← p.given "attempt" base.attempt text, ← p.given "registry" base.registry text⟩

/-- The override section. -/
def subrouter (s : Setting) : Except FitError Subrouter := do
  let p ← part "SubrouterConfig" ["url", "registry_url", "owners", "cache_ttl"] s
  let base : Subrouter := {}
  return ⟨← p.given "url" none (optional text), ← p.given "registry_url" none (optional text),
    ← p.given "owners" none (optional texts), ← p.given "cache_ttl" base.cacheTtl text⟩

/-- The logging section. -/
def logging (s : Setting) : Except FitError Logging := do
  let p ← part "LoggingConfig" ["level", "json", "include_spans"] s
  let base : Logging := {}
  return ⟨← p.given "level" base.level text, ← p.given "json" base.json bool,
    ← p.given "include_spans" base.includeSpans bool⟩

/-- The certificate section. -/
def tls (s : Setting) : Except FitError Tls := do
  let p ← part "TlsConfig" ["cert_path", "key_path"] s
  return ⟨← p.required "cert_path" text, ← p.required "key_path" text⟩

/-- A whole configuration.  Faults of the fields that are there come before missing ones. -/
def config (s : Setting) : Except FitError Config := do
  let p ← part "RouterConfig" ["listen_addr", "hosts", "unit", "strategy", "timeouts",
    "subrouter", "max_body_bytes", "logging", "tls"] s
  let listenAddr ← p.given "listen_addr" defaultListenAddr text
  let hosts ← p.given "hosts" none fun s => (texts s).map some
  let unit ← p.given "unit" none fun s => (variant "UnitKind" UnitKind.ofName? s).map some
  let strategy ← p.given "strategy" .proxy (variant "DispatchStrategy" Strategy.ofName?)
  let timeouts ← p.given "timeouts" {} timeouts
  let subrouter ← p.given "subrouter" {} subrouter
  let maxBodyBytes ← p.given "max_body_bytes" defaultMaxBodyBytes size
  let logging ← p.given "logging" {} logging
  let tls ← p.given "tls" none (optional tls)
  match hosts, unit with
  | none, _ => .error ⟨[.name "hosts"], .missing⟩
  | _, none => .error ⟨[.name "unit"], .missing⟩
  | some hosts, some unit =>
    return ⟨listenAddr, hosts, unit, strategy, timeouts, subrouter, maxBodyBytes, logging, tls⟩

end Fit
end AffinityGate.Config
