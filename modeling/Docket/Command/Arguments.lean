/-!
# The command line

A command line names one of four commands.  Words that start with a hyphen are options, each with one
value that follows as a word or after an equals sign; all other words are values in order, and so is
whatever comes after two hyphens.  An option is given at most once, and a path is not empty.

`Invocation.read` reads a command line from left to right, so a wish for help counts only before the
first mistake.
-/

namespace Docket

/-- What the program is told to do. -/
inductive Command where
  /-- Check workflow files. -/
  | validate (path : String)
  /-- Create a record and run one pass. -/
  | run (workflow data : String) (submitter directory : Option String)
  /-- Serve requests. -/
  | serve (workflows bind : String) (directory database : Option String)
  /-- Bring a database up to date. -/
  | migrate (database : String)
  deriving DecidableEq, Repr

/-- A command with the file of its settings. -/
structure Invocation where
  settings : Option String
  command : Command
  deriving DecidableEq, Repr

/-- What the program can explain: itself, one of its commands by name, or how to ask for help. -/
inductive Topic where
  | program
  | command (name : String)
  | help
  deriving DecidableEq, Repr

/-- What a command line asks for. -/
inductive Wish where
  | invocation (i : Invocation)
  | help (topic : Topic)
  | version
  deriving DecidableEq, Repr

namespace Command

def names : List String := ["validate", "run", "serve", "migrate"]

/-- Where requests are served if nothing else is said. -/
def defaultBind : String := "0.0.0.0:8080"

/-- The data of a record if nothing else is said. -/
def defaultData : String := "\x7b\x7d"

/-- An option of a command. -/
structure Flag where
  name : String
  /-- Whether the value is a path. -/
  isPath : Bool
  /-- The variable that stands in for the option. -/
  standIn : Option String
  /-- What the option is for. -/
  about : String
  /-- The value that is taken without the option. -/
  default : Option String := none
  /-- Whether the command makes no sense without the option. -/
  isRequired : Bool := false
  deriving DecidableEq, Repr

/-- The option that every command has. -/
def settingsFlag : Flag where
  name := "settings"
  isPath := true
  standIn := some "STATUS_ENGINE_SETTINGS"
  about := "TOML settings file (\x60[engine]\x60 and \x60[gateway]\x60 sections)"

/-- The option that names a file with roles and users. -/
def directoryFlag (about : String) : Flag := ⟨"directory", true, none, about, none, false⟩

/-- The option that names a database. -/
def databaseFlag (about : String) (isRequired : Bool) : Flag :=
  ⟨"database-url", false, some "DATABASE_URL", about, none, isRequired⟩

/-- The options of a command beside that for the settings. -/
def flags : String → List Flag
  | "run" =>
    [⟨"data", false, none, "Record data as a JSON object", some defaultData, false⟩,
      ⟨"submitter", false, none, "", none, false⟩,
      directoryFlag "JSON file with the directory's roles and users"]
  | "serve" =>
    [⟨"bind", false, some "BIND_ADDR", "", some defaultBind, false⟩,
      ⟨"workflows", true, none, "A workflow JSON file or a directory of them", none, true⟩,
      directoryFlag "", databaseFlag "Postgres URL; records are kept in memory without one" false]
  | "migrate" => [databaseFlag "" true]
  | _ => []

/-- The variables that stand in for options. -/
def standIns : List String :=
  (settingsFlag :: names.flatMap flags).filterMap Flag.standIn

/-- How many paths a command takes. -/
def arity : String → Nat
  | "validate" | "run" => 1
  | _ => 0

end Command

namespace Invocation

/-- What has been read of the words after a command. -/
structure Words where
  options : List (String × String)
  values : List String
  deriving DecidableEq, Repr

/-- Why reading stops: help or the version is wanted, or the command line is wrong. -/
inductive Stop where
  | help (topic : Topic)
  | version
  | misuse
  deriving DecidableEq, Repr

/-- Whether a word is an option. -/
def isOption (word : String) : Bool := word.startsWith "-" && word != "-"

/-- The name of a long option and the value after its equals sign. -/
def longOption? (word : String) : Option (String × Option String) :=
  match word.toList with
  | '-' :: '-' :: rest =>
    match rest.span (· != '=') with
    | (name, []) => some (String.ofList name, none)
    | (name, _ :: value) => some (String.ofList name, some (String.ofList value))
  | _ => none

/-- Takes the value of an option. -/
def takeOption (flag : Command.Flag) (value : String) (words : Words) : Except Stop Words :=
  if (words.options.lookup flag.name).isSome ∨ (flag.isPath ∧ value = "") then .error .misuse
  else .ok { words with options := words.options ++ [(flag.name, value)] }

/-- Takes a path of the command. -/
def takeValue (arity : Nat) (value : String) (words : Words) : Except Stop Words :=
  if arity ≤ words.values.length ∨ value = "" then .error .misuse
  else .ok { words with values := words.values ++ [value] }

/-- What an option does: it says how its value is taken, or stops the reading. -/
def option (topic : Topic) (flags : List Command.Flag) (word : String) :
    Except Stop (Command.Flag × Option String) :=
  match longOption? word with
  | some ("help", none) => .error (.help topic)
  | some (name, value) =>
    match flags.find? fun f => f.name = name with
    | some flag => .ok (flag, value)
    | none => .error .misuse
  | none => .error (if word.startsWith "-h" then .help topic else .misuse)

/-- Reads the words after a command, of which the first is the value of an option that still wants
one. -/
def readWords (topic : Topic) (flags : List Command.Flag) (arity : Nat) :
    (pending : Option Command.Flag) → List String → Words → Except Stop Words
  | none, [], words => .ok words
  | some _, [], _ => .error .misuse
  | some flag, word :: rest, words =>
    if isOption word then .error .misuse
    else (takeOption flag word words).bind (readWords topic flags arity none rest)
  | none, word :: rest, words =>
    if word = "--" then rest.foldlM (fun words value => takeValue arity value words) words
    else if isOption word then
      match option topic flags word with
      | .error stop => .error stop
      | .ok (flag, some value) =>
        (takeOption flag value words).bind (readWords topic flags arity none rest)
      | .ok (flag, none) => readWords topic flags arity (some flag) rest words
    else (takeValue arity word words).bind (readWords topic flags arity none rest)

/-- Takes the values of variables for options that are missing. -/
def fillIn (env : String → Option String) (flags : List Command.Flag) (words : Words) :
    Except Stop Words :=
  flags.foldlM (fun words flag =>
    match words.options.lookup flag.name, flag.standIn.bind env with
    | none, some value => takeOption flag value words
    | _, _ => .ok words) words

/-- The command of a name and the words after it. -/
def commandOf (name : String) (words : Words) : Except Stop Command :=
  let option? (name : String) : Option String := words.options.lookup name
  match name, words.values with
  | "validate", [path] => .ok (.validate path)
  | "run", [workflow] =>
    .ok (.run workflow ((option? "data").getD Command.defaultData) (option? "submitter")
      (option? "directory"))
  | "serve", [] =>
    match option? "workflows" with
    | some workflows =>
      .ok (.serve workflows ((option? "bind").getD Command.defaultBind) (option? "directory")
        (option? "database-url"))
    | none => .error .misuse
  | "migrate", [] =>
    match option? "database-url" with
    | some url => .ok (.migrate url)
    | none => .error .misuse
  | _, _ => .error .misuse

/-- Reads a command and the words after it, after the options before it. -/
def readCommand (env : String → Option String) (before : Words) (name : String)
    (rest : List String) : Except Stop Invocation := do
  if name ∉ Command.names then
    .error .misuse
  let flags := Command.settingsFlag :: Command.flags name
  let words ← readWords (.command name) flags (Command.arity name) none rest ⟨[], []⟩
  let words : Words := { words with options := words.options ++ before.options }
  let words ← fillIn env flags words
  return ⟨words.options.lookup "settings", ← commandOf name words⟩

/-- What the words after a wish for help ask for. -/
def helpOn : List String → Stop
  | [] => .help .program
  | [word] =>
    if word = "help" then .help .help
    else if word ∈ Command.names then .help (.command word)
    else .misuse
  | _ => .misuse

/-- Reads the words up to the name of the command, of which the first is the value of an option that
still wants one, and the rest. -/
def readFront (env : String → Option String) :
    (pending : Option Command.Flag) → List String → Words → Except Stop Invocation
  | _, [], _ => .error .misuse
  | some flag, word :: rest, words =>
    if isOption word then .error .misuse
    else (takeOption flag word words).bind (readFront env none rest)
  | none, word :: rest, words =>
    if word = "--version" ∨ word.startsWith "-V" then .error .version
    else if isOption word then
      match option .program [Command.settingsFlag] word with
      | .error stop => .error stop
      | .ok (flag, some value) => (takeOption flag value words).bind (readFront env none rest)
      | .ok (flag, none) => readFront env (some flag) rest words
    else if word = "help" then .error (helpOn rest)
    else readCommand env words word rest

/-- Reads a command line under an environment; there is no wish where it is wrong. -/
def read (env : String → Option String) (words : List String) : Option Wish :=
  match readFront env none words ⟨[], []⟩ with
  | .ok i => some (.invocation i)
  | .error (.help topic) => some (.help topic)
  | .error .version => some .version
  | .error .misuse => none

end Invocation
end Docket
