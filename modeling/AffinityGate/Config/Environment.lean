import AffinityGate.Config.Setting

/-!
# Settings from the environment

A variable whose name starts with the prefix is a setting: the rest of its name is the path, with
two underscores for a dot.  Its value is read as a truth value, a number, a list or a text.
-/

namespace AffinityGate.Config.Environment

/-- What the names of settings start with, in lower case. -/
def nameStart : List Char := "unit_router_".toList

/-- Where settings of the environment come from. -/
def origin : String := "the environment"

/-- The settings that are lists with commas. -/
def lists : List String := ["hosts", "subrouter.owners"]

/-- Every pair of underscores is a dot. -/
def dotted : List Char → List Char
  | '_' :: '_' :: cs => '.' :: dotted cs
  | c :: cs => c :: dotted cs
  | [] => []

/-- The name of the setting that a variable is. -/
def settingName? (name : String) : Option String :=
  (stripStart? nameStart (name.toList.map Char.toLower)).map fun rest =>
    String.ofList (dotted rest)

/-- The value of a setting. -/
def value (name text : String) : Setting :=
  let cs := text.toList
  let lower := String.ofList (cs.map Char.toLower)
  let one (v : Scalar) : Setting := .scalar (some origin) v
  if lower = "true" then one (.bool true)
  else if lower = "false" then one (.bool false)
  else
    match Decimal.signed? cs, Decimal.float? cs with
    | some n, _ => one (.int n)
    | none, some x => one (.float x)
    | none, none =>
      if lists.contains name then
        .list (some origin) ((pieces ',' cs).map fun item => one (.text (String.ofList item)))
      else one (.text text)

/-- The settings among variables. -/
def settings (vars : List (String × String)) : List (String × Setting) :=
  vars.filterMap fun v => (settingName? v.1).map fun name => (name, value name v.2)

end AffinityGate.Config.Environment
