import AffinityGate.Text.Pieces

/-!
# File paths

Paths are compared in their shortest form, without empty parts and dots.
-/

namespace AffinityGate.FilePath

/-- The parts of a path that count: empty parts and dots do not. -/
def parts (path : String) : List (List Char) :=
  (pieces '/' path.toList).filter fun p => !p.isEmpty && p != ['.']

/-- Whether a path starts at the root. -/
def isAbsolute (path : String) : Bool :=
  path.toList.head? == some '/'

/-- The path of parts. -/
def ofParts (absolute : Bool) (ps : List (List Char)) : String :=
  String.ofList ((if absolute then ['/'] else []) ++ join '/' ps)

/-- The shortest way to write a path. -/
def normal (path : String) : String :=
  ofParts (isAbsolute path) (parts path)

/-- Whether a path can only be a directory's. -/
def isDirectoryName (path : String) : Bool :=
  match (pieces '/' path.toList).getLast? with
  | some [] | some ['.'] | some ['.', '.'] => true
  | _ => false

/-- What follows the last dot of the last part, unless it is the first character. -/
def extension? (path : String) : Option String :=
  match (parts path).getLast? with
  | none => none
  | some name =>
    let ext := (name.reverse.takeWhile (· != '.')).reverse
    if name = ['.', '.'] ∨ name.length < ext.length + 2 then none else some (String.ofList ext)

/-- The directory that holds a path. -/
def parent (path : String) : String :=
  ofParts (isAbsolute path) (parts path).dropLast

/-- The directories on the way to a path, in their shortest form. -/
def ancestors (path : String) : List String :=
  let ps := parts path
  (List.range ps.length).map fun n => ofParts (isAbsolute path) (ps.take n)

end AffinityGate.FilePath
