import AffinityGate.Data.Json

/-!
# Documents

The value that a configuration file stands for, whatever its format.
-/

namespace AffinityGate

/-- A single value. -/
inductive Scalar
  | null
  | bool (b : Bool)
  | int (n : Int)
  | float (x : Float)
  | text (s : String)
  deriving Repr

/-- A tree of values. -/
inductive Document
  | scalar (value : Scalar)
  | list (items : List Document)
  | table (entries : List (String × Document))
  deriving Repr

namespace Document

/-- Integers beyond this are floating-point numbers. -/
def maxInt : Int := (Nat.pow 2 63 : Int) - 1

mutual

/-- The document of a JSON value; of members with one key the last counts. -/
def ofJson : Json → Document
  | .null => .scalar .null
  | .bool b => .scalar (.bool b)
  | .int n =>
    if n ≤ maxInt then .scalar (.int n) else .scalar (.float (Float.ofScientific n.toNat false 0))
  | .float x => .scalar (.float x)
  | .string s => .scalar (.text s)
  | .array items => .list (ofItems items)
  | .object members => .table (ofMembers members)

/-- The documents of items. -/
def ofItems : List Json → List Document
  | [] => []
  | j :: js => ofJson j :: ofItems js

/-- The documents of members. -/
def ofMembers : List (String × Json) → List (String × Document)
  | [] => []
  | (k, j) :: ms =>
    if ms.any (·.1 == k) then ofMembers ms else (k, ofJson j) :: ofMembers ms

end

/-- The document of a JSON text, which must be an object. -/
def ofJsonText? (bs : Bytes) : Option (List (String × Document)) :=
  match Json.read? bs with
  | some (.object members) => some (ofMembers members)
  | _ => none

end Document
end AffinityGate
