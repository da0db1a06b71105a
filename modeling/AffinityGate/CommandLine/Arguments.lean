/-!
# Command-line arguments

The program has three commands, each with the configuration file as its only option.  Without a
command it serves.  Arguments are read from the left; an option may be given once at each level, and
what the program option says is not passed on to a command.
-/

namespace AffinityGate.CommandLine

/-- A command. -/
inductive Command
  | validate
  | init
  | serve
  deriving DecidableEq, Repr

namespace Command

/-- The name of a command. -/
def name : Command → String
  | .validate => "validate"
  | .init => "init"
  | .serve => "serve"

/-- The commands in the order of their listing. -/
def all : List Command := [.validate, .init, .serve]

/-- The command of a name. -/
def ofName? (s : String) : Option Command :=
  all.find? (·.name == s)

end Command

/-- What the arguments ask for.  Help may be about a command or about the program. -/
inductive Invocation
  | run (command : Command) (path : String)
  | help (command : Option Command)
  | helpAboutHelp
  | version
  | misuse
  deriving DecidableEq, Repr

/-- The configuration file when none is named. -/
def defaultPath : String := "config.toml"

/-- The option of one level: the value that is settled, and a use of the option that is not settled
before the next option, with its value if it has come. -/
structure PathOption where
  settled : Option String
  pending : Option (Option String)
  deriving DecidableEq, Repr

namespace PathOption

/-- The option is not given. -/
def absent : PathOption := ⟨none, none⟩

/-- Settles the pending use.  A use without a value and a second value are refused. -/
def settle (o : PathOption) : Option PathOption :=
  match o.pending with
  | none => some o
  | some none => none
  | some (some v) => if o.settled.isSome then none else some ⟨some v, none⟩

/-- A use of the option with or without a value in the same argument. -/
def use (o : PathOption) (value : Option String) : Option PathOption := do
  let o ← o.settle
  match value with
  | none => some { o with pending := some none }
  | some v => PathOption.settle { o with pending := some (some v) }

/-- The value, or the default. -/
def path? (o : PathOption) : Option String :=
  o.settle.map fun o => o.settled.getD defaultPath

end PathOption

/-- One argument at one level. -/
inductive Argument
  | path (value : Option String)
  | help
  | version
  | word (text : String)
  | stop
  | unknown
  deriving DecidableEq, Repr

namespace Argument

/-- A long option. -/
def long (cs : List Char) : Argument :=
  let name := String.ofList (cs.takeWhile (· != '='))
  let value := match cs.dropWhile (· != '=') with
    | _ :: v => some (String.ofList v)
    | [] => none
  if name = "config" then .path value
  else if value.isSome then .unknown
  else if name = "help" then .help
  else if name = "version" then .version
  else .unknown

/-- Short options: the first decides, since the path takes the rest of the argument as its value. -/
def short : List Char → Argument
  | ['c'] => .path none
  | 'c' :: '=' :: v => .path (some (String.ofList v))
  | 'c' :: v => .path (some (String.ofList v))
  | 'h' :: _ => .help
  | 'V' :: _ => .version
  | _ => .unknown

/-- Reads one argument.  A hyphen alone is a word. -/
def read (s : String) : Argument :=
  match s.toList with
  | ['-', '-'] => .stop
  | '-' :: '-' :: cs => long cs
  | ['-'] => .word s
  | '-' :: cs => short cs
  | _ => .word s

end Argument

/-- What a question for help with further words is about. -/
def helpAbout : List String → Invocation
  | [] => .help none
  | [s] =>
    if s = "help" then .helpAboutHelp
    else
      match Command.ofName? s with
      | some c => .help (some c)
      | none => .misuse
  | _ => .misuse

/-- The arguments after a command. -/
def readCommand (c : Command) (o : PathOption) : List String → Invocation
  | [] =>
    match o.path? with
    | some p => .run c p
    | none => .misuse
  | s :: rest =>
    match o.pending, Argument.read s with
    | some none, .word v => readCommand c { o with pending := some (some v) } rest
    | _, .path v =>
      match o.use v with
      | some o => readCommand c o rest
      | none => .misuse
    | _, .help => if o.settle.isSome then .help (some c) else .misuse
    | _, .stop =>
      match rest, o.path? with
      | [], some p => .run c p
      | _, _ => .misuse
    | _, _ => .misuse

/-- The arguments of the program.  After a command its own arguments are read first, and then the
pending use of the option is settled. -/
def readProgram (o : PathOption) : List String → Invocation
  | [] =>
    match o.path? with
    | some p => .run .serve p
    | none => .misuse
  | s :: rest =>
    match o.pending, Argument.read s with
    | some none, .word v => readProgram { o with pending := some (some v) } rest
    | _, .word w =>
      if w = "help" then helpAbout rest
      else
        match Command.ofName? w with
        | none => .misuse
        | some c =>
          match readCommand c .absent rest with
          | .run c p => if o.settle.isSome then .run c p else .misuse
          | other => other
    | _, .path v =>
      match o.use v with
      | some o => readProgram o rest
      | none => .misuse
    | _, .help => if o.settle.isSome then .help none else .misuse
    | _, .version => if o.settle.isSome then .version else .misuse
    | _, .stop =>
      match rest, o.path? with
      | [], some p => .run .serve p
      | _, _ => .misuse
    | _, .unknown => .misuse

/-- What arguments ask for. -/
def Invocation.read (args : List String) : Invocation :=
  readProgram .absent args

end AffinityGate.CommandLine
