import AffinityGate.Net.Address
import AffinityGate.Routing.Observation
import AffinityGate.Text.Blank
import AffinityGate.Unicode.Alphanumeric

/-!
# Log filters

A filter is a list of directives joined by commas.  A directive is a level, a target, or both as
`target=level`, with an optional span `[name\{field=value\}]` before the level.  An event passes if
the most specific directive that cares about it has a level at least as verbose.
-/

namespace AffinityGate.Logging

/-- Why a text is no filter. -/
inductive FilterError
  | badDirective
  | badLevel
  deriving DecidableEq, Repr

/-- The wording of an error. -/
def FilterError.message : FilterError → String
  | .badDirective => "invalid filter directive"
  | .badLevel =>
    "error parsing level filter: expected one of \"off\", \"error\", \"warn\", \"info\", "
      ++ "\"debug\", \"trace\", or a number 0-5"

/-- How much passes: zero is nothing, then errors, and so on up to five for everything. -/
abbrev Verbosity := Nat

/-- The verbosity that lets a level pass. -/
def verbosity : Level → Verbosity
  | .error => 1
  | .warn => 2
  | .info => 3
  | .debug => 4
  | .trace => 5

/-- One directive.  Fields may be bound to values. -/
structure Directive where
  level : Verbosity
  target : Option String
  span : Option String
  fields : List (String × Bool)
  deriving DecidableEq, Repr

/-- The verbosities by name. -/
def levelNames : List (String × Verbosity) :=
  [("off", 0), ("error", 1), ("warn", 2), ("info", 3), ("debug", 4), ("trace", 5)]

/-- A number without a sign, or with a plus. -/
def plainNumber? (cs : List Char) : Option Nat :=
  Net.number? Net.decimal? 10 (match cs with
    | '+' :: r => r
    | r => r)

/-- The verbosity of a name in any case or of a number up to five; nothing stands for errors. -/
def level? (cs : List Char) : Option Verbosity :=
  match plainNumber? cs with
  | some n => if n ≤ 5 then some n else none
  | none =>
    if cs.isEmpty then some 1
    else (levelNames.find? (·.1 == String.ofList (cs.map Char.toLower))).map (·.2)

/-- Where the reading of a directive stands; positions are those where a part starts. -/
inductive Stage
  | start
  | levelOrTarget (start : Nat)
  | span (start : Nat)
  | field (start : Nat)
  | fields
  | target
  | level (start : Nat)
  deriving DecidableEq, Repr

/-- Characters that a directive may start with. -/
def startsDirective (c : Char) : Bool :=
  Unicode.isAlphanumeric c || c == '-' || c == ':' || c == '_'

/-- The part of a text between two positions. -/
def slice (text : List Char) (start stop : Nat) : List Char :=
  (text.take stop).drop start

/-- A field and whether it is bound to a value. -/
def field (cs : List Char) : String × Bool :=
  (String.ofList (cs.takeWhile (· != '=')), cs.contains '=')

/-- One character at position `i`.  Parts are cut out of `text` at positions counted without the
blanks before the directive. -/
def step (text : List Char) (s : Stage × Directive) (here : Char × Nat) :
    Except FilterError (Stage × Directive) :=
  let (stage, d) := s
  let (c, i) := here
  match stage with
  | .start =>
    if c = '[' then .ok (.span (i + 1), d)
    else if startsDirective c then .ok (.levelOrTarget i, d)
    else .error .badDirective
  | .levelOrTarget start =>
    let named := { d with target := some (String.ofList (slice text start i)) }
    if c = '=' then .ok (.level (i + 1), named)
    else if c = '[' then .ok (.span (i + 1), named)
    else .ok (stage, d)
  | .span start =>
    let name := String.ofList (slice text start i)
    if c = ']' then .ok (.target, { d with span := some name })
    else if c = '\x7b' then
      .ok (.field (i + 1), { d with span := if name = "" then none else some name })
    else .ok (stage, d)
  | .field start =>
    if c = '\x7d' then
      let cs := slice text start i
      if cs.isEmpty then .error .badDirective
      else .ok (.fields, { d with fields := d.fields ++ [field cs] })
    else .ok (stage, d)
  | .fields => if c = ']' then .ok (.target, d) else .error .badDirective
  | .target => if c = '=' then .ok (.level (i + 1), d) else .error .badDirective
  | .level _ => .ok (stage, d)

/-- The verbosity of a level that may be left out. -/
def levelOrAll (cs : List Char) : Except FilterError Verbosity :=
  if cs.isEmpty then .ok 5
  else
    match level? cs with
    | some v => .ok v
    | none => .error .badLevel

/-- What the end of a directive makes of it. -/
def finish (text : List Char) : Stage × Directive → Except FilterError Directive
  | (.levelOrTarget start, d) =>
    let cs := text.drop start
    match level? cs with
    | some v => .ok { d with level := v, target := none }
    | none => .ok { d with level := 5, target := some (String.ofList cs) }
  | (.level start, d) => (levelOrAll (text.drop start)).map fun v => { d with level := v }
  | (.target, d) => .ok d
  | _ => .error .badDirective

/-- Reads one directive. -/
def Directive.parse (text : List Char) : Except FilterError Directive := do
  let s ← (trim text).zipIdx.foldlM (step text) (.start, ⟨5, none, none, []⟩)
  finish text s

/-- A list of directives. -/
structure Filter where
  directives : List Directive
  deriving DecidableEq, Repr

/-- An event as a filter sees it. -/
structure Event where
  target : String
  level : Level
  fields : List String
  deriving DecidableEq, Repr

namespace Filter

/-- Reads a filter. -/
def parse (s : String) : Except FilterError Filter := do
  let parts := (pieces ',' s.toList).filter (!·.isEmpty)
  return ⟨← parts.mapM Directive.parse⟩

/-- Directives that do not depend on the span an event happens in. -/
def isStatic (d : Directive) : Bool :=
  d.span.isNone && d.fields.all (!·.2)

/-- Whether a directive cares about an event. -/
def caresAbout (e : Event) (d : Directive) : Bool :=
  (match d.target with
    | some t => (stripStart? t.toList e.target.toList).isSome
    | none => true)
  && d.fields.all fun f => e.fields.contains f.1

/-- How specific a directive is: the length of its target, then the number of its fields. -/
def specificity (d : Directive) : Nat × Nat :=
  ((d.target.map fun t => t.utf8ByteSize + 1).getD 0, d.fields.length)

/-- Whether one directive is at least as specific as another. -/
def atLeast (a b : Directive) : Bool :=
  let x := specificity a
  let y := specificity b
  y.1 < x.1 || (x.1 == y.1 && y.2 ≤ x.2)

/-- The most specific of the directives that care about an event; of equal ones the last. -/
def deciding (f : Filter) (e : Event) : Option Directive :=
  let statics := f.directives.filter isStatic
  let all := if f.directives.isEmpty then [⟨1, none, none, []⟩] else statics
  (all.filter (caresAbout e)).foldl
    (fun best d => match best with
      | none => some d
      | some b => if atLeast d b then some d else some b) none

/-- Whether an event outside any span passes. -/
def passes (f : Filter) (e : Event) : Bool :=
  match f.deciding e with
  | some d => verbosity e.level ≤ d.level
  | none => false

end Filter
end AffinityGate.Logging
