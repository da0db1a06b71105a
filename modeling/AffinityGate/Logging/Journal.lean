import AffinityGate.Data.Json
import AffinityGate.Logging.Filter

/-!
# The log

What a program logs is a list of records in order.  A filter decides which are written.
-/

namespace AffinityGate.Logging

/-- One record. -/
structure Record where
  level : Level
  target : String
  message : String
  fields : List (String × Json) := []

/-- The text of a flag. -/
def flagText (b : Bool) : String :=
  if b then "true" else "false"

/-- A record as filters see it: the message is a field like the others. -/
def Record.event (r : Record) : Event :=
  ⟨r.target, r.level, "message" :: r.fields.map (·.1)⟩

/-- A record as a line of JSON. -/
def Record.jsonLine (r : Record) : String :=
  Json.render (.object
    [("level", .string (r.level.name.map Char.toUpper)),
     ("fields", .object (("message", .string r.message) :: r.fields)),
     ("target", .string r.target)])

/-- A record as a line of plain text. -/
def Record.plainLine (r : Record) : String :=
  r.level.name.map Char.toUpper ++ " " ++ r.target ++ ": " ++ r.message
    ++ String.join (r.fields.map fun f => ", " ++ f.1 ++ ": " ++ f.2.render)

/-- The line of a record in either form. -/
def Record.line (json : Bool) (r : Record) : String :=
  if json then r.jsonLine else r.plainLine

/-- The records that pass a filter, in order. -/
def Filter.written (f : Filter) (rs : List Record) : List Record :=
  rs.filter fun r => f.passes r.event

end AffinityGate.Logging
