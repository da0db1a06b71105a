import AffinityGate.Storage.FilePath
import AffinityGate.Text.Utf8

/-!
# Files

The files that a gateway finds, as a value: entries under the shortest form of their paths, seen
from a working directory.
-/

namespace AffinityGate

/-- What a path leads to. -/
inductive Entry
  | file (contents : Bytes)
  | directory
  deriving DecidableEq, Repr

/-- Entries by the shortest form of their paths. -/
structure Files where
  entries : List (String × Entry)
  deriving DecidableEq, Repr

namespace Files

/-- Directories that are always there: the working directory, the one above it, and the root. -/
def standing : List String := ["", "..", "/"]

/-- Files of given contents, with the directories that hold them. -/
def ofContents (fs : List (String × Bytes)) : Files :=
  ⟨fs.map (fun f => (FilePath.normal f.1, .file f.2))
    ++ (fs.flatMap fun f => FilePath.ancestors f.1).map (·, .directory)
    ++ standing.map (·, .directory)⟩

/-- What a path leads to.  A path that can only be a directory's leads to no file. -/
def find? (fs : Files) (path : String) : Option Entry :=
  if path = "" then none
  else
    ((fs.entries.find? (·.1 == FilePath.normal path)).map (·.2)).filter fun e =>
      e == .directory || !FilePath.isDirectoryName path

/-- Whether a path leads anywhere. -/
def isThere (fs : Files) (path : String) : Bool :=
  (fs.find? path).isSome

/-- The contents of a file. -/
def contents? (fs : Files) (path : String) : Option Bytes :=
  match fs.find? path with
  | some (.file bs) => some bs
  | _ => none

/-- Whether a file can be made at a path: its directory is there, and nothing is at the path. -/
def canCreate (fs : Files) (path : String) : Bool :=
  !FilePath.isDirectoryName path && !fs.isThere path
    && fs.entries.any fun e => e.1 == FilePath.parent path && e.2 == .directory

/-- A file made or overwritten. -/
def put (fs : Files) (path : String) (contents : Bytes) : Files :=
  ⟨(FilePath.normal path, .file contents) :: fs.entries⟩

end Files
end AffinityGate
