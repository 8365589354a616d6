import Docket.Command.Help
import Docket.Directory.File
import Docket.Service.Handler
import Docket.Toml.Reader

/-!
# The program

The program reads a command line, its settings, and the files that the command names, and stops at
the first thing that goes wrong.  What it asks of the world around it is a `Host`, so it says what
happens whatever the files and services are.
-/

namespace Docket

open Expression (Rules)

/-- Why a file cannot be read. -/
inductive ReadFault where
  | missing
  | isDirectory
  | notText
  | other (reason : String)
  deriving DecidableEq, Repr

def ReadFault.message : ReadFault → String
  | .missing => "No such file or directory (os error 2)"
  | .isDirectory => "Is a directory (os error 21)"
  | .notText => "stream did not contain valid UTF-8"
  | .other reason => reason

/-- The world around the program. -/
structure Host (m : Type → Type) where
  read : String → m (Except ReadFault String)
  isFile : String → m Bool
  /-- The names in a directory, if it can be listed. -/
  names : String → m (Option (List String))
  fresh : m Uuid
  now : m Instant
  /-- The records of a database, brought up to date, if it can be reached. -/
  database : String → m (Option RecordStore)
  /-- Serves requests at an address until it is told to stop, and says whether it could. -/
  listen : String → Service → m Bool

/-- What the program complains about, with the reasons behind it. -/
structure Complaint where
  text : String
  causes : List String
  deriving DecidableEq, Repr

/-- A complaint and its reasons on one line. -/
def Complaint.line (c : Complaint) : String := ": ".intercalate (c.text :: c.causes)

/-- What the program prints. -/
inductive Output where
  | lines (lines : List String)
  | report (value : Json)
  deriving DecidableEq, Repr

/-- How the program ends. -/
structure Ending where
  code : Nat
  output : Output
  complaint : Option Complaint
  deriving DecidableEq, Repr

/-- A result or a complaint. -/
abbrev Result (α : Type) := Except Complaint α

namespace LoadError

/-- The reason behind a refusal, beside what is said about it. -/
def causes : LoadError → List String
  | .invalidText _ _ e => [e.message]
  | _ => []

end LoadError

namespace Program

variable {m : Type → Type} [Monad m] (host : Host m)

/-! ## Files -/

/-- Reads a file as something, whose name the complaints mention. -/
def readAs {α : Type} (what path : String) (read : String → Except (List String) α) :
    m (Result α) := do
  match ← host.read path with
  | .error e => return .error ⟨"cannot read " ++ what ++ " " ++ path, [e.message]⟩
  | .ok text =>
    match read text with
    | .error causes => return .error ⟨"invalid " ++ what ++ " " ++ path, causes⟩
    | .ok a => return .ok a

/-- What a text says if it says anything, as a way to read a file. -/
def orNothing {α : Type} (read? : String → Option α) (text : String) : Except (List String) α :=
  match read? text with
  | some a => .ok a
  | none => .error []

/-- The settings of a file; without one, the default settings. -/
def loadSettings (path : Option String) : m (Result Settings) :=
  match path with
  | none => return .ok .default
  | some path => readAs host "settings" path (orNothing fun text => (Toml.read? text).bind Settings.decode)

/-- The directory of a file; without one, nobody and nothing. -/
def loadDirectory (path : Option String) : m (Result Directory) :=
  match path with
  | none => return .ok .empty
  | some path => readAs host "directory" path (orNothing Directory.readFile?)

def loadWorkflow (rules : Rules) (path : String) : m (Result Graph) :=
  readAs host "workflow" path fun text =>
    match Graph.load rules text with
    | .ok g => .ok g
    | .error e => .error (e.message :: e.causes)

/-- Whether a name ends like that of a workflow file and has something before the end. -/
def isWorkflowName (name : String) : Bool := name.endsWith ".json" && name != ".json"

def inDirectory (path name : String) : String :=
  if path.endsWith "/" then path ++ name else path ++ "/" ++ name

/-- The workflow files that a path stands for: itself, or those of a directory in order. -/
def workflowFiles (path : String) : m (Result (List String)) := do
  if ← host.isFile path then
    return .ok [path]
  else
    match ← host.names path with
    | none => return .error ⟨"cannot list " ++ path, []⟩
    | some names =>
      let names := (names.filter isWorkflowName).mergeSort fun a b => a ≤ b
      return .ok (names.map (inDirectory path))

/-! ## Commands -/

/-- The end of a program that prints lines. -/
def ended (lines : List String) : Ending := ⟨0, .lines lines, none⟩

/-- The end of a program that complains. -/
def failed (lines : List String) (c : Complaint) : Ending := ⟨1, .lines lines, some c⟩

/-- The line about a workflow file. -/
def verdict (path : String) : Result Graph → String
  | .ok g => "ok      " ++ path ++ " (" ++ toString g.workflow.statuses.length ++ " statuses)"
  | .error c => "invalid " ++ path ++ ": " ++ c.line

def validate (settings : Settings) (path : String) : m Ending := do
  match ← workflowFiles host path with
  | .error c => return failed [] c
  | .ok files =>
    let results ← files.mapM fun file => do
      let r ← loadWorkflow host settings.engine.rules file
      return (file, r)
    let lines := results.map fun r => verdict r.1 r.2
    match (results.filter fun r => r.2.toBool = false).length with
    | 0 => return ended lines
    | n => return failed lines ⟨toString n ++ " invalid workflow(s)", []⟩

/-- What is reported of a first pass. -/
def report (reply : Reply Outcome) : Result Json :=
  match reply.answer with
  | .error e => .error ⟨e.message, []⟩
  | .ok outcome =>
    .ok (Json.object [("record", reply.record.toJson), ("outcome", outcome.toJson),
      ("errors", .arr (reply.world.log.lines.map LoggedError.toJson))])

/-- Creates a record and runs one pass. -/
def runOnce (settings : Settings) (workflow data : String) (submitter directory : Option String) :
    m Ending := do
  match (Json.read? data).bind Json.table? with
  | none => return failed [] ⟨"--data must be a JSON object", []⟩
  | some data =>
    match ← loadDirectory host directory with
    | .error c => return failed [] c
    | .ok directory =>
      let engine := Engine.ofSettings settings.engine .logging
      match ← loadWorkflow host engine.rules workflow with
      | .error c => return failed [] c
      | .ok graph =>
        let now ← host.now
        let record := Record.create graph.workflow (← host.fresh) now data submitter
        let moment : Moment := { user := none, origin := .automatic, now, bindings := ∅ }
        let world : World := { directory, log := .empty, sent := [] }
        match report (Scene.run { engine, graph, moment } record world) with
        | .error c => return failed [] c
        | .ok value => return ⟨0, .report value, none⟩

/-- Loads workflow files into a service, up to the first that is refused. -/
def addWorkflows : List String → Service → m (Result Service)
  | [], s => return .ok s
  | file :: rest, s => do
    match ← loadWorkflow host s.engine.rules file with
    | .error c => return .error c
    | .ok g => addWorkflows rest (s.addWorkflow g)

/-- Keeps the records of a service in a database, if one is named. -/
def withDatabase (database : Option String) (s : Service) : m (Result Service) :=
  match database with
  | none => return .ok s
  | some url => do
    match ← host.database url with
    | none => return .error ⟨"database error", []⟩
    | some records => return .ok { s with store := .working records }

/-- Loads what is served. -/
def prepare (settings : Settings) (workflows : String) (directory database : Option String) :
    m (Result Service) := do
  match ← loadDirectory host directory with
  | .error c => return .error c
  | .ok directory =>
    match ← workflowFiles host workflows with
    | .error c => return .error c
    | .ok files =>
      let engine := Engine.ofSettings settings.engine .logging
      let s := { Service.start engine directory with queue := some (.opened []) }
      match ← addWorkflows host files s with
      | .error c => return .error c
      | .ok s => withDatabase host database s

def serve (settings : Settings) (workflows bind : String) (directory database : Option String) :
    m Ending := do
  match ← prepare host settings.forServing workflows directory database with
  | .error c => return failed [] c
  | .ok s =>
    if ← host.listen bind s then return ended []
    else return failed [] ⟨"api server failed", []⟩

def migrate (database : String) : m Ending := do
  match ← host.database database with
  | some _ => return ended []
  | none => return failed [] ⟨"database error", []⟩

def carryOut (i : Invocation) : m Ending := do
  match ← loadSettings host i.settings with
  | .error c => return failed [] c
  | .ok settings =>
    match i.command with
    | .validate path => validate host settings path
    | .run workflow data submitter directory =>
      runOnce host settings workflow data submitter directory
    | .serve workflows bind directory database =>
      serve host settings workflows bind directory database
    | .migrate database => migrate host database

/-! ## The whole program -/

/-- Runs the program on a command line, under an environment of variables. -/
def start (env : String → Option String) (words : List String) : m Ending :=
  match Invocation.read env words with
  | none => return ⟨2, .lines [], some ⟨"the command line is not understood", []⟩⟩
  | some (.help topic) => return ended (Command.help env topic)
  | some .version => return ended [Command.version]
  | some (.invocation i) => carryOut host i

end Program
end Docket
