import AffinityGate.Data.Document
import AffinityGate.Yaml.Node

/-!
# Documents of YAML texts

A configuration is a text of at most one document, which is a mapping with single values as keys.
-/

namespace AffinityGate.Yaml

/-- The name that a key stands for; collections and null are no names. -/
def Node.name? : Node → Option String
  | .text s => some s
  | .int n => some (toString n)
  | .bool b => some (toString b)
  | .real s => some s
  | _ => none

mutual

/-- The document of a node; special real numbers have none. -/
def Node.document? : Node → Option Document
  | .null | .bad => some (.scalar .null)
  | .bool b => some (.scalar (.bool b))
  | .int n => some (.scalar (.int n))
  | .real s => (Decimal.float? s.toList).map fun x => .scalar (.float x)
  | .text s => some (.scalar (.text s))
  | .list items => (itemDocuments? items).map .list
  | .map entries => (entryDocuments? entries).map .table

/-- The documents of items. -/
def itemDocuments? : List Node → Option (List Document)
  | [] => some []
  | n :: ns =>
    match n.document?, itemDocuments? ns with
    | some d, some ds => some (d :: ds)
    | _, _ => none

/-- The documents of entries. -/
def entryDocuments? : List (Node × Node) → Option (List (String × Document))
  | [] => some []
  | (k, v) :: es =>
    match k.name?, v.document?, entryDocuments? es with
    | some s, some d, some ds => some ((s, d) :: ds)
    | _, _, _ => none

end

/-- The table that a text stands for; an empty text is an empty table. -/
def read? (cs : List Char) : Option (List (String × Document)) :=
  match nodes? cs with
  | some [] => some []
  | some [.map entries] => entryDocuments? entries
  | _ => none

end AffinityGate.Yaml
