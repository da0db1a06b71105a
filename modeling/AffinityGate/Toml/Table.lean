import AffinityGate.Data.Document

/-!
# Tables under construction

While a text is read it matters how a table came about: by its own header, by the header of a table
below it, or by a dotted key.  A table has one header at most, and a dotted key does not reach into
a table that has one.
-/

namespace AffinityGate.Toml

/-- How a table came about. -/
inductive Standing
  | header
  | implied
  | dotted
  deriving DecidableEq, Repr

/-- An entry of a table under construction.  Values are closed, inline tables and arrays with
them; of the tables of an array the last one comes first. -/
inductive Entry
  | value (d : Document)
  | table (standing : Standing) (entries : List (String × Entry))
  | tables (items : List (List (String × Entry)))

/-- The entries of a table under construction. -/
abbrev Entries := List (String × Entry)

namespace Entries

/-- The entry of a key. -/
def entry? (es : Entries) (k : String) : Option Entry :=
  (List.find? (·.1 == k) es).map (·.2)

/-- The entry of a key, new or in place of the one it has. -/
def set (es : Entries) (k : String) (e : Entry) : Entries :=
  if es.any (·.1 == k) then es.map fun p => if p.1 == k then (k, e) else p else es ++ [(k, e)]

/-- Changes the table that a path leads to; tables on the way come about as the path's kind says. -/
def descend? (isDotted : Bool) : List String → (Entries → Option Entries) → Entries → Option Entries
  | [], change, es => change es
  | k :: path, change, es =>
    match es.entry? k with
    | none =>
      (descend? isDotted path change []).map fun t =>
        es.set k (.table (if isDotted then .dotted else .implied) t)
    | some (.table standing t) =>
      if isDotted ∧ standing = .header then none
      else (descend? isDotted path change t).map fun t => es.set k (.table standing t)
    | some (.tables (last :: before)) =>
      (descend? isDotted path change last).map fun t => es.set k (.tables (t :: before))
    | some _ => none

/-- Adds a value under a dotted key; a key has one value at most. -/
def insert? (key : List String) (d : Document) (es : Entries) : Option Entries :=
  match key.getLast? with
  | none => none
  | some last =>
    descend? true key.dropLast
      (fun t => if (t.entry? last).isSome then none else some (t.set last (.value d))) es

/-- Opens the table of a header: a new one, or one that so far was only implied. -/
def openTable? (path : List String) (es : Entries) : Option Entries :=
  match path.getLast? with
  | none => none
  | some last =>
    descend? false path.dropLast
      (fun t =>
        match t.entry? last with
        | none => some (t.set last (.table .header []))
        | some (.table .implied sub) => some (t.set last (.table .header sub))
        | some _ => none) es

/-- Opens the next table of an array of tables. -/
def openItem? (path : List String) (es : Entries) : Option Entries :=
  match path.getLast? with
  | none => none
  | some last =>
    descend? false path.dropLast
      (fun t =>
        match t.entry? last with
        | none => some (t.set last (.tables [[]]))
        | some (.tables items) => some (t.set last (.tables ([] :: items)))
        | some _ => none) es

/-- Adds a value to the table of the header in force. -/
def insertUnder? (header key : List String) (d : Document) (es : Entries) : Option Entries :=
  descend? false header (insert? key d) es

end Entries

mutual

/-- The finished entry. -/
def Entry.close : Entry → Document
  | .value d => d
  | .table _ es => .table (closeEntries es)
  | .tables items => .list (closeItems items).reverse

/-- The finished entries of a table. -/
def closeEntries : List (String × Entry) → List (String × Document)
  | [] => []
  | (k, e) :: es => (k, e.close) :: closeEntries es

/-- The finished tables of an array. -/
def closeItems : List (List (String × Entry)) → List Document
  | [] => []
  | es :: rest => .table (closeEntries es) :: closeItems rest

end

end AffinityGate.Toml
