import TypeMismatch.Command.Options

/-!
# Requests of the command line

The command compares two names, shows the structure of a name, or shortens a name. Before its task
stand a configuration file and overrides. A second command only compares, and takes its options
anywhere.

Source: `build_parser` (`spec`, `compareSpec`, `parseSpec`, `shortenSpec`) and the parser that the
`main` of the pair command makes (`pairSpec`).
-/

namespace TypeMismatch

/-- What the command is asked to do. A name that is lost among separators has no text. -/
inductive Task where
  | compare (expected actual : Option String) (json : Bool)
  | parse (name : Option String) (json : Bool)
  | shorten (name : Option String)
deriving DecidableEq, Repr

/-- A request of the command line: a configuration file if one is given, overrides, and a task. The
name of the file, and an override, may be lost, and have no text then. -/
structure Request where
  config : Option (Option String)
  overrides : List (Option String)
  task : Task
deriving DecidableEq, Repr

namespace Command

/-- The option that asks for help. -/
def helpOption : OptionSpec := ⟨["-h", "--help"], .help⟩

/-- The option for a configuration file. -/
def configOption : OptionSpec := ⟨["--config"], .value⟩

/-- The option for an override. -/
def setOption : OptionSpec := ⟨["--set"], .value⟩

/-- The option for JSON. -/
def jsonOption : OptionSpec := ⟨["--json"], .flag⟩

/-- The usage of the command. -/
def usage : String :=
  "usage: typediff [-h] [--config CONFIG] [--set KEY=VALUE]\n"
    ++ "                \x7bcompare,parse,shorten\x7d ...\n"

/-- The command. -/
def spec : CommandSpec where
  program := "typediff"
  usage := usage
  help := usage
    ++ "\nShorten fully-qualified type names to their distinguishing suffixes\n"
    ++ "\npositional arguments:\n"
    ++ "  \x7bcompare,parse,shorten\x7d\n"
    ++ "    compare             Shorten an expected/actual pair\n"
    ++ "    parse               Show the parsed structure of a type name\n"
    ++ "    shorten             Reduce a type name to bare names\n"
    ++ "\noptions:\n"
    ++ "  -h, --help            show this help message and exit\n"
    ++ "  --config CONFIG       Optional path to a reporting configuration YAML file.\n"
    ++ "  --set KEY=VALUE       Override configuration values using dot notation (e.g.\n"
    ++ "                        message.fallback_to_raw=False).\n"
  options := [helpOption, configOption, setOption]
  positions := ["command"]
  takesRest := true

/-- The usage of the comparing task. -/
def compareUsage : String := "usage: typediff compare [-h] [--json] expected actual\n"

/-- The comparing task. -/
def compareSpec : CommandSpec where
  program := "typediff compare"
  usage := compareUsage
  help := compareUsage
    ++ "\npositional arguments:\n"
    ++ "  expected    Fully-qualified expected type name\n"
    ++ "  actual      Fully-qualified actual type name\n"
    ++ "\noptions:\n"
    ++ "  -h, --help  show this help message and exit\n"
    ++ "  --json      Emit the report as JSON\n"
  options := [helpOption, jsonOption]
  positions := ["expected", "actual"]
  takesRest := false

/-- The usage of the task that shows a structure. -/
def parseUsage : String := "usage: typediff parse [-h] [--json] name\n"

/-- The task that shows a structure. -/
def parseSpec : CommandSpec where
  program := "typediff parse"
  usage := parseUsage
  help := parseUsage
    ++ "\npositional arguments:\n"
    ++ "  name        Fully-qualified type name\n"
    ++ "\noptions:\n"
    ++ "  -h, --help  show this help message and exit\n"
    ++ "  --json      Emit the signature as JSON\n"
  options := [helpOption, jsonOption]
  positions := ["name"]
  takesRest := false

/-- The usage of the shortening task. -/
def shortenUsage : String := "usage: typediff shorten [-h] name\n"

/-- The shortening task. -/
def shortenSpec : CommandSpec where
  program := "typediff shorten"
  usage := shortenUsage
  help := shortenUsage
    ++ "\npositional arguments:\n"
    ++ "  name        Fully-qualified type name\n"
    ++ "\noptions:\n"
    ++ "  -h, --help  show this help message and exit\n"
  options := [helpOption]
  positions := ["name"]
  takesRest := false

/-- The usage of the command that only compares. -/
def pairUsage : String :=
  "usage: diff_types.py [-h] [--config CONFIG] [--set OVERRIDES] [--json]\n"
    ++ "                     expected actual\n"

/-- The command that only compares. -/
def pairSpec : CommandSpec where
  program := "diff_types.py"
  usage := pairUsage
  help := pairUsage
    ++ "\nShorten an expected/actual type-name pair\n"
    ++ "\npositional arguments:\n"
    ++ "  expected         Fully-qualified expected type name\n"
    ++ "  actual           Fully-qualified actual type name\n"
    ++ "\noptions:\n"
    ++ "  -h, --help       show this help message and exit\n"
    ++ "  --config CONFIG  Optional reporting configuration file\n"
    ++ "  --set OVERRIDES  Configuration overrides (key=value)\n"
    ++ "  --json           Emit the report as JSON to stdout\n"
  options := [helpOption, configOption, setOption, jsonOption]
  positions := ["expected", "actual"]
  takesRest := false

/-- The tasks by their names. -/
def tasks : List (String × CommandSpec) :=
  [("compare", compareSpec), ("parse", parseSpec), ("shorten", shortenSpec)]

/-- The end of reading for a name that is no task's. -/
def noTask (name : String) : Stop :=
  spec.misuse ("argument command: invalid choice: " ++ Text.quote name ++ " (choose from "
    ++ String.intercalate ", " (tasks.map fun t => Text.quote t.1) ++ ")")

/-- The values that were given for an option, in order. -/
def valuesOf (r : Reading) (name : String) : List (Option String) :=
  (r.given.filter (·.1 == name)).map (·.2)

/-- Whether an option was given. -/
def isGiven (r : Reading) (name : String) : Bool := r.given.any (·.1 == name)

/-- The operand at a position. -/
def operandAt (r : Reading) (n : Nat) : Option String := (r.operands[n]?).getD none

/-- The task that a name and the words behind it ask for. -/
def taskOf (name : String) (r : Reading) : Task :=
  if name = "compare" then .compare (operandAt r 0) (operandAt r 1) (isGiven r "--json")
  else if name = "parse" then .parse (operandAt r 0) (isGiven r "--json")
  else .shorten (operandAt r 0)

/-- Words that are left over are refused. -/
def refuseExtras (spec : CommandSpec) (extras : List String) : Except Stop Unit :=
  if extras.isEmpty then .ok ()
  else .error (spec.misuse ("unrecognized arguments: " ++ String.intercalate " " extras))

/-- The request that a command line makes. -/
def readRequest (words : List (Option String)) : Except Stop Request := do
  let r ← spec.read words
  let name := (operandAt r 0).getD ""
  match tasks.lookup name with
  | none => .error (noTask name)
  | some task => do
    let t ← task.read (r.operands.drop 1)
    refuseExtras spec (r.extras ++ t.extras)
    pure ⟨(valuesOf r "--config").getLast?, valuesOf r "--set", taskOf name t⟩

end Command
end TypeMismatch
