import AffinityGate.CommandLine.Arguments
import AffinityGate.Config.Load
import AffinityGate.Config.Template
import AffinityGate.Config.Validation
import AffinityGate.Lifecycle.Start

/-!
# Reports of the commands

What a command prints, the files it makes and the code it ends with, as a value.
-/

namespace AffinityGate.CommandLine

open Logging (flagText)

/-- What a command leaves behind. -/
structure Report where
  exit : Nat
  output : String := ""
  complaint : String := ""
  created : List (String × String) := []
  deriving DecidableEq, Repr

/-- Lines as text. -/
def unlines (ls : List String) : String :=
  String.join (ls.map (· ++ "\n"))

/-- A failure after some output. -/
def Report.failed (output complaint : List String) : Report :=
  ⟨1, unlines output, unlines complaint, []⟩

namespace Validate

/-- The first line of every report. -/
def opening (path : String) : String :=
  "🔍 Validating configuration file: " ++ path

/-- What was read. -/
def parsed : String := "✅ Configuration parsing: OK"

/-- Whether the override of a configuration is in force. -/
def overrides (s : Config.Subrouter) : Bool :=
  match OwnerPolicy.ofConfig s with
  | .ok (some _) => true
  | _ => false

/-- The summary of a valid configuration. -/
def summary (c : Config) : List String :=
  ["✅ Configuration validation: OK", "", "📋 Configuration Summary:",
   "   • Listen Address: " ++ c.listenAddr,
   "   • Unit: " ++ c.unit.name,
   "   • Strategy: " ++ c.strategy.name,
   "   • Hosts: " ++ toString c.hosts.length]
  ++ c.hosts.zipIdx.map (fun h => "       " ++ toString h.2 ++ ". " ++ h.1)
  ++ ["   • Subrouter Override: " ++ flagText (overrides c.subrouter)]
  ++ (if c.subrouter.isPartial then
      ["   ⚠️  Subrouter section is incomplete (url, registry_url and owners are all required); "
        ++ "the override stays disabled"]
    else [])
  ++ ["   • TLS Enabled: " ++ flagText c.tls.isSome, "",
      "🎉 Configuration is valid and ready to use!"]

/-- Advice after a failed validation. -/
def advice : List String :=
  ["", "💡 Common fixes:",
   "   • Ensure all URLs start with http:// or https://",
   "   • List every host exactly once",
   "   • Use humantime durations such as '5s' or '1h'",
   "   • Verify listen address format (e.g., '127.0.0.1:3000')"]

/-- What went wrong with a file, as far as it is known. -/
def cause (e : Config.LoadError) : String :=
  e.context ++ ((e.message?).map (": " ++ ·)).getD ""

/-- Checks the configuration at a path. -/
def report (s : Surroundings) (path : String) : Report :=
  if !s.files.isThere path then
    .failed [opening path] ["❌ Error: Configuration file '" ++ path ++ "' not found"]
  else
    match Config.load s.files.contents? path s.vars with
    | .error e => .failed [opening path] ["❌ Configuration parsing failed:", "   " ++ cause e]
    | .ok c =>
      match c.validate s.files.isThere with
      | .ok _ => ⟨0, unlines (opening path :: parsed :: summary c), "", []⟩
      | .error e =>
        .failed (opening path :: parsed :: advice) ["❌ Configuration validation failed:", e]

end Validate

namespace Init

/-- Makes a configuration file at a path. -/
def report (s : Surroundings) (path : String) : Report :=
  if s.files.isThere path then
    .failed [] ["❌ Error: Configuration file '" ++ path ++ "' already exists"]
  else if s.files.canCreate path then
    ⟨0, unlines ["✅ Created default configuration at: " ++ path,
        "   Run 'unit-router serve --config " ++ path ++ "' to start the router"],
      "", [(FilePath.normal path, Config.template)]⟩
  else .failed [] ["Failed to write config file"]

end Init

namespace Help

/-- What the program does. -/
def about : String :=
  "A process-affine routing gateway with deterministic host selection and transparent failover"

/-- The name and version of the program. -/
def version : String := "unit-router 0.1.0"

/-- What a command does, and what its option means. -/
def commandText : Command → String × String
  | .validate => ("Validate configuration file", "Configuration file to validate")
  | .init => ("Initialize a new configuration file", "Output path for the new config file")
  | .serve => ("Start the router (default)", "Configuration file to use")

/-- The default of the option. -/
def byDefault : String := "[default: " ++ defaultPath ++ "]"

/-- The help on a command. -/
def ofCommand (c : Command) : List String :=
  [(commandText c).1, "", "Usage: unit-router " ++ c.name ++ " [OPTIONS]", "", "Options:",
   "  -c, --config <CONFIG>  " ++ (commandText c).2 ++ " " ++ byDefault,
   "  -h, --help             Print help"]

/-- The help on the program. -/
def program : List String :=
  [about, "", "Usage: unit-router [OPTIONS] [COMMAND]", "", "Commands:",
   "  validate  Validate configuration file",
   "  init      Initialize a new configuration file",
   "  serve     Start the router (default)",
   "  help      Print this message or the help of the given subcommand(s)", "", "Options:",
   "  -c, --config <CONFIG>  " ++ byDefault,
   "  -h, --help             Print help",
   "  -V, --version          Print version"]

/-- The help on the command `help`. -/
def help : List String :=
  ["Print this message or the help of the given subcommand(s)", "",
   "Usage: unit-router help [COMMAND]...", "", "Arguments:",
   "  [COMMAND]...  Print help for the subcommand(s)"]

end Help

/-- The report of an invocation that is over at once, or the path that is served from. -/
def report (s : Surroundings) : Invocation → Report ⊕ String
  | .run .validate path => .inl (Validate.report s path)
  | .run .init path => .inl (Init.report s path)
  | .run .serve path => .inr path
  | .help none => .inl ⟨0, unlines Help.program, "", []⟩
  | .help (some c) => .inl ⟨0, unlines (Help.ofCommand c), "", []⟩
  | .helpAboutHelp => .inl ⟨0, unlines Help.help, "", []⟩
  | .version => .inl ⟨0, unlines [Help.version], "", []⟩
  | .misuse => .inl ⟨2, "", unlines ["error: invalid arguments", "",
      "For more information, try '--help'."], []⟩

end AffinityGate.CommandLine
