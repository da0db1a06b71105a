import AffinityGate.CommandLine.Report

/-!
# The program

Looks at the files and variables that a command may need, runs the command on them, and does what
its report says.  A gateway that serves logs its start, waits for the end of its input, and logs its
stop.
-/

open AffinityGate.CommandLine

namespace AffinityGate.Program

/-- What a path leads to. -/
def lookAt (path : String) : IO (Option Entry) := do
  try
    return some (.file (← IO.FS.readBinFile path).toList)
  catch e =>
    match e with
    | .noFileOrDirectory .. => return none
    | .inappropriateType .. => return some .directory
    | _ => return none

/-- The entries that are found at paths and on the way to them. -/
def gather (paths : List String) : IO Files := do
  let all := (paths.flatMap fun p => p :: FilePath.ancestors p).filter (· != "")
  let found ← all.mapM fun p => return (← lookAt p).map fun e => (FilePath.normal p, e)
  return Files.mk (found.filterMap id ++ Files.standing.map fun d => (d, .directory))

/-- The variables of the environment. -/
def environment : IO (List (String × String)) := do
  try
    let bs ← IO.FS.readBinFile "/proc/self/environ"
    return (pieces 0 bs.toList).filterMap fun entry =>
      match cutAt '=' (Utf8.lossy entry) with
      | some (name, value) => some (String.ofList name, String.ofList value)
      | none => none
  catch _ => return []

/-- What a command on a configuration file finds. -/
def surroundingsOf (path : String) : IO Surroundings := do
  let vars ← environment
  let first ← gather (path :: Config.candidates path)
  match Config.load first.contents? path vars with
  | .ok { tls := some t, .. } =>
    let files ← gather (path :: Config.candidates path ++ [t.certPath, t.keyPath])
    return ⟨files, vars, fun _ => true⟩
  | _ => return ⟨first, vars, fun _ => true⟩

/-- Carries out a report. -/
def carryOut (r : Report) : IO UInt32 := do
  try
    for (path, contents) in r.created do IO.FS.writeFile path contents
    IO.print r.output
    IO.eprint r.complaint
    return UInt32.ofNat r.exit
  catch e =>
    IO.eprintln e
    return 1

/-- Reads until the end of the input. -/
partial def waitForEnd (input : IO.FS.Stream) : IO Unit := do
  if (← input.getLine).isEmpty then return
  waitForEnd input

/-- Follows a gateway from its start to its stop. -/
def serveFrom (s : Surroundings) (path : String) : IO UInt32 := do
  let (begun, filter) := Gateway.launch s path
  let json := (begun.config.map (·.logging.json)).getD true
  for r in begun.records do IO.println (r.line json)
  match begun.outcome with
  | .error e =>
    IO.eprintln ("Error: " ++ e.message)
    return 1
  | .ok _ =>
    waitForEnd (← IO.getStdin)
    for r in (filter.map (·.written Gateway.stopped)).getD [] do IO.println (r.line json)
    return 0

/-- Runs the command that the arguments ask for. -/
def run (args : List String) : IO UInt32 := do
  let asked := Invocation.read args
  let s ← match asked with
    | .run _ path => surroundingsOf path
    | _ => gather [] >>= fun files => return ⟨files, [], fun _ => true⟩
  match report s asked with
  | .inl r => carryOut r
  | .inr path => serveFrom s path

end AffinityGate.Program

/-- The program. -/
def main (args : List String) : IO UInt32 :=
  AffinityGate.Program.run args
