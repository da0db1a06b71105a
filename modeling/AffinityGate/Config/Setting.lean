import AffinityGate.Data.Document
import AffinityGate.Number.Decimal
import AffinityGate.Text.Pieces

/-!
# Settings

A setting is a value with the place it comes from.  Settings are laid over each other: a later
value replaces an earlier one, tables are merged entry by entry.
-/

namespace AffinityGate.Config

/-- A value and where it comes from. -/
inductive Setting
  | scalar (origin : Option String) (value : Scalar)
  | list (origin : Option String) (items : List Setting)
  | table (origin : Option String) (entries : List (String × Setting))
  deriving Repr

namespace Setting

/-- A setting that is not there. -/
def absent : Setting := .scalar none .null

/-- Where a setting comes from. -/
def origin? : Setting → Option String
  | .scalar o _ | .list o _ | .table o _ => o

/-- The entries of a table; other settings have none. -/
def entries : Setting → List (String × Setting)
  | .table _ es => es
  | _ => []

/-- The items of a list; other settings have none. -/
def items : Setting → List Setting
  | .list _ xs => xs
  | _ => []

/-- The entry of a name. -/
def get? (s : Setting) (name : String) : Option Setting :=
  (s.entries.find? (·.1 == name)).map (·.2)

/-- The entries with one of them changed; a new one is absent before. -/
def change (name : String) (f : Setting → Setting) (es : List (String × Setting)) :
    List (String × Setting) :=
  if es.any (·.1 == name) then es.map fun e => if e.1 == name then (name, f e.2) else e
  else es ++ [(name, f absent)]

mutual

/-- The settings of a document from one place. -/
def ofDocument (origin : String) : Document → Setting
  | .scalar v => .scalar (some origin) v
  | .list items => .list (some origin) (ofItems origin items)
  | .table entries => .table (some origin) (ofEntries origin entries)

/-- The settings of items. -/
def ofItems (origin : String) : List Document → List Setting
  | [] => []
  | d :: ds => ofDocument origin d :: ofItems origin ds

/-- The settings of entries. -/
def ofEntries (origin : String) : List (String × Document) → List (String × Setting)
  | [] => []
  | (k, d) :: es => (k, ofDocument origin d) :: ofEntries origin es

end

mutual

/-- A setting laid over another. -/
def laidOver (below : Setting) : Setting → Setting
  | .scalar o v => .scalar o v
  | .list o items => .list o items
  | .table _ entries => .table none (layEntries below.entries entries)

/-- Entries laid over others. -/
def layEntries (below : List (String × Setting)) :
    List (String × Setting) → List (String × Setting)
  | [] => below
  | (k, v) :: es => layEntries (change k (fun b => laidOver b v) below) es

end

/-! ## Paths -/

/-- One step into a setting. -/
inductive Step
  | name (text : String)
  | position (index : Int)
  deriving DecidableEq, Repr

/-- Characters of a name in a path. -/
def isNameChar (c : Char) : Bool :=
  c.isAlphanum || c == '_' || c == '-'

/-- Blanks around a position. -/
def isPadding (c : Char) : Bool :=
  c == ' ' || c == '\t'

/-- The position in brackets at the front, its bracket opened, and the rest. -/
def position? (cs : List Char) : Option (Int × List Char) :=
  match cutAt ']' cs with
  | none => none
  | some (inside, rest) =>
    let written := (((inside.dropWhile isPadding).reverse.dropWhile isPadding).reverse)
    if written.head? = some '+' then none
    else ((Decimal.signed? written)).map fun n => (n, rest)

/-- The steps behind the first name.  `fuel` bounds their number. -/
def steps? : Nat → List Char → Option (List Step)
  | _, [] => some []
  | 0, _ => none
  | fuel + 1, '.' :: cs =>
    let name := cs.takeWhile isNameChar
    if name.isEmpty then none
    else (steps? fuel (cs.drop name.length)).map (.name (String.ofList name) :: ·)
  | fuel + 1, '[' :: cs =>
    match position? cs with
    | some (n, rest) => (steps? fuel rest).map (.position n :: ·)
    | none => none
  | _ + 1, _ => none

/-- The path that a name stands for: names with dots between them and positions in brackets, or
the whole name if it is not written so. -/
def path (name : String) : List Step :=
  let cs := name.toList
  let first := cs.takeWhile isNameChar
  if first.isEmpty then [.name name]
  else
    match steps? (cs.length + 1) (cs.drop first.length) with
    | some steps => .name (String.ofList first) :: steps
    | none => [.name name]

/-- The items with the one at a position changed; positions below zero count from the end, and
items that are missing are absent. -/
def changeItem (index : Int) (f : Setting → Setting) (xs : List Setting) : List Setting :=
  let length : Int := xs.length
  let place : Int := if 0 ≤ index then index else length + index
  if place < 0 then
    f absent :: List.replicate ((-place).toNat - 1) absent ++ xs
  else
    let n := place.toNat
    let padded := xs ++ List.replicate (n + 1 - xs.length) absent
    padded.mapIdx fun i x => if i = n then f x else x

/-- Changes the setting that a path leads to; tables and lists on the way come about as needed. -/
def changeAt : List Step → (Setting → Setting) → Setting → Setting
  | [], f, s => f s
  | .name k :: rest, f, s => .table none (change k (changeAt rest f) s.entries)
  | .position i :: rest, f, s => .list none (changeItem i (changeAt rest f) s.items)

/-- Lays a setting over the one that a name leads to. -/
def put (s : Setting) (name : String) (v : Setting) : Setting :=
  changeAt (path name) (fun below => laidOver below v) s

/-- Lays entries over a setting, one after the other. -/
def putAll (s : Setting) (es : List (String × Setting)) : Setting :=
  es.foldl (fun s e => s.put e.1 e.2) s

end Setting
end AffinityGate.Config
