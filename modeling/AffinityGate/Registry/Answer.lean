import AffinityGate.Data.Json
import AffinityGate.Routing.Outside

/-!
# Answers of an owner registry

An answer is a JSON text of a fixed shape: errors, and data that lists the owners of the processes
asked for.  What is not part of the shape is passed over.
-/

namespace AffinityGate.Registry

/-- What an answer says: the messages of its errors, and its owners if it has data. -/
structure Answer where
  owners : Option (List String)
  errors : List String
  deriving DecidableEq, Repr

namespace Answer

/-- The members of a record in the order of its fields.  A record is an object that has no field
twice, or an array of at least `needed` of the fields in order. -/
def members? (fields : List String) (needed : Nat) : Form → Option (List (Option Form))
  | .object ms =>
    match ms.mapM fun m => (Form.text? m.1).map fun k => (k, m.2) with
    | none => none
    | some named =>
      let known := (named.map (·.1)).filter fields.contains
      if known.eraseDups.length = known.length then
        some (fields.map fun f => (named.find? (·.1 == f)).map (·.2))
      else none
  | .array items =>
    if needed ≤ items.length ∧ items.length ≤ fields.length then
      some ((List.range fields.length).map fun i => items[i]?)
    else none
  | _ => none

/-- The value of a record's only field. -/
def only? (field : String) (f : Form) : Option Form :=
  match members? [field] 1 f with
  | some [some v] => some v
  | _ => none

/-- A text. -/
def text? : Form → Option String
  | .string raw => Form.text? raw
  | _ => none

/-- A list of what `read` gives. -/
def list? {α : Type} (read : Form → Option α) : Form → Option (List α)
  | .array items => items.mapM read
  | _ => none

/-- The address of the owner of an edge. -/
def edge? (f : Form) : Option String :=
  ((((only? "node" f).bind (only? "owner")).bind (only? "address"))).bind text?

/-- The addresses of the owners in the data. -/
def data? (f : Form) : Option (List String) :=
  ((only? "transactions" f).bind (only? "edges")).bind (list? edge?)

/-- The answer that a form stands for. -/
def ofForm? (f : Form) : Option Answer :=
  match members? ["data", "errors"] 1 f with
  | some [data, errors] =>
    let owners := match data with
      | none | some .null => some none
      | some d => (data? d).map some
    let messages := match errors with
      | none => some []
      | some e => list? (fun m => (only? "message" m).bind text?) e
    match owners, messages with
    | some o, some ms => some ⟨o, ms⟩
    | _, _ => none
  | _ => none

/-- The answer that a text stands for. -/
def read? (bs : Bytes) : Option Answer :=
  (Form.read? bs).bind ofForm?

/-- What an answer says about the owner: an error wins over data, and the first owner counts. -/
def owner (a : Answer) : Except RegistryError (Option String) :=
  match a.errors, a.owners with
  | m :: _, _ => .error (.malformed ("GraphQL error: " ++ m))
  | [], none => .error (.malformed "response has no data")
  | [], some os => .ok os.head?

end Answer

/-- Why the body of an answer could not be read. -/
def undecodable : RegistryError :=
  .malformed "error decoding response body"

/-- What a final status and body say about the owner; a body that broke off is `none`. -/
def interpret (status : Nat) (body : Option Bytes) : Except RegistryError (Option String) :=
  if status < 200 ∨ 300 ≤ status then .error (.status status)
  else
    match body.bind Answer.read? with
    | some a => a.owner
    | none => .error undecodable

end AffinityGate.Registry
