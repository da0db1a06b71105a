import AffinityGate.Config.Environment
import AffinityGate.Config.Fit
import AffinityGate.Storage.FilePath
import AffinityGate.Toml.Text
import AffinityGate.Yaml.Text

/-!
# Loading a configuration

A configuration is a file with the settings of the environment laid over it.  The file's extension
tells its format; if there is no file of the given name, the format's extensions are tried behind
it.
-/

namespace AffinityGate.Config

/-- A format of configuration files. -/
inductive FileFormat
  | toml
  | json
  | yaml
  deriving DecidableEq, Repr

namespace FileFormat

/-- The extensions of a format. -/
def extensions : FileFormat → List String
  | .toml => ["toml"]
  | .json => ["json"]
  | .yaml => ["yaml", "yml"]

/-- The table that a text stands for. -/
def read? (format : FileFormat) (cs : List Char) : Option (List (String × Document)) :=
  match format with
  | .toml => Toml.read? cs
  | .json => Document.ofJsonText? (Utf8.encode cs)
  | .yaml => Yaml.read? cs

/-- The format of a path's extension. -/
def ofPath (path : String) : FileFormat :=
  match FilePath.extension? path with
  | some "yaml" | some "yml" => .yaml
  | some "json" => .json
  | _ => .toml

end FileFormat

/-- The names under which a file is looked for, in order. -/
def candidates (path : String) : List String :=
  let name := FilePath.normal path
  (if FilePath.isDirectoryName path then [] else [name])
    ++ (FileFormat.ofPath path).extensions.map fun ext => name ++ "." ++ ext

/-- Why no configuration was loaded. -/
inductive LoadError
  | noFile (path : String)
  | malformed (path : String)
  | unfit (path : String) (cause : FitError)
  deriving DecidableEq, Repr

namespace LoadError

/-- What was being done. -/
def context : LoadError → String
  | .noFile path | .malformed path => "Failed to build config from " ++ path
  | .unfit path _ => "Failed to deserialize config from " ++ path

/-- What went wrong; a malformed file has no further account. -/
def message? : LoadError → Option String
  | .noFile path => some ("configuration file \"" ++ path ++ "\" not found")
  | .malformed _ => none
  | .unfit _ e => some e.message

end LoadError

/-- The characters of a file: a mark of the byte order is dropped, ill-formed parts are replaced. -/
def fileText (bs : Bytes) : List Char :=
  Utf8.lossy (match bs with
    | 0xEF :: 0xBB :: 0xBF :: rest => rest
    | _ => bs)

/-- Loads the configuration at a path, given the files and the variables of the environment. -/
def load (file? : String → Option Bytes) (path : String) (vars : List (String × String)) :
    Except LoadError Config :=
  match (candidates path).findSome? fun name => (file? name).map fun bs => (name, bs) with
  | none => .error (.noFile path)
  | some (name, bs) =>
    match (FileFormat.ofPath path).read? (fileText bs) with
    | none => .error (.malformed path)
    | some entries =>
      let settings := (Setting.table none []).putAll (Setting.ofEntries name entries)
      match Fit.config (settings.putAll (Environment.settings vars)) with
      | .ok c => .ok c
      | .error e => .error (.unfit path e)

end AffinityGate.Config
