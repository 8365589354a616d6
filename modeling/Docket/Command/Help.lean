import Docket.Command.Arguments

/-!
# Help

What the program says about itself and its commands.  A page gives the purpose, the form of the
command line, and tables of what may stand in it, whose right columns are aligned.
-/

namespace Docket.Command

def program : String := "status-engine"

/-- The name of the program and its version. -/
def version : String := program ++ " 0.1.0"

def purpose : String → String
  | "validate" => "Validate workflow definition files"
  | "run" => "Create a record and run one automatic pass, printing the result"
  | "serve" => "Start the REST API server"
  | "migrate" => "Run pending database migrations"
  | _ => "Print this message or the help of the given subcommand(s)"

/-- The paths that a command takes, with what they are for. -/
def paths : String → List (String × String)
  | "validate" => [("<PATH>", "A workflow JSON file or a directory of them")]
  | "run" => [("<WORKFLOW>", "Workflow JSON file")]
  | _ => []

/-- An option with the place of its value. -/
def Flag.form (f : Flag) : String :=
  let value := String.ofList (f.name.toList.map fun c => if c = '-' then '_' else c.toUpper)
  "--" ++ f.name ++ " <" ++ value ++ ">"

/-- What is said about an option: its purpose, the variable that stands in for it with its value,
and what is taken without it. -/
def Flag.text (env : String → Option String) (f : Flag) : String :=
  let standIn := f.standIn.map fun v => "[env: " ++ v ++ "=" ++ (env v).getD "" ++ "]"
  let default := f.default.map fun v => "[default: " ++ v ++ "]"
  " ".intercalate ((if f.about = "" then [] else [f.about]) ++ standIn.toList ++ default.toList)

/-- The lines of a table under its title. -/
def table (title : String) (rows : List (String × String)) : List String :=
  let width := rows.foldl (fun w r => max w r.1.length) 0
  let line (r : String × String) : String :=
    "  " ++ r.1 ++ String.ofList (List.replicate (width - r.1.length) ' ') ++ "  " ++ r.2
  if rows.isEmpty then [] else "" :: title :: rows.map line

/-- The rows of options, and the wish for help. -/
def flagRows (env : String → Option String) (flags : List Flag) : List (String × String) :=
  flags.map (fun f => ("    " ++ f.form, f.text env)) ++ [("-h, --help", "Print help")]

/-- The options of a command with that for the settings, which stands second or first. -/
def allFlags (name : String) : List Flag :=
  match flags name with
  | [] => [settingsFlag]
  | first :: rest => first :: settingsFlag :: rest

def form (name : String) : String :=
  " ".intercalate ([program, name, "[OPTIONS]"] ++ (flags name).filterMap (fun f =>
    if f.isRequired then some f.form else none) ++ (paths name).map Prod.fst)

def page (purpose form : String) (tables : List (List String)) : List String :=
  [purpose, "", "Usage: " ++ form] ++ tables.flatten

def help (env : String → Option String) : Topic → List String
  | .program =>
    page "Workflow status-transition engine" (program ++ " [OPTIONS] <COMMAND>")
      [table "Commands:" ((names ++ ["help"]).map fun n => (n, purpose n)),
        table "Options:" (flagRows env [settingsFlag] ++ [("-V, --version", "Print version")])]
  | .command name =>
    page (purpose name) (form name)
      [table "Arguments:" (paths name), table "Options:" (flagRows env (allFlags name))]
  | .help =>
    page (purpose "help") (program ++ " help [COMMAND]...")
      [table "Arguments:" [("[COMMAND]...", "Print help for the subcommand(s)")]]

end Docket.Command
