import Docket.Access
import Docket.Failure
import Docket.Graph
import Docket.Job
import Docket.Settings
import Docket.Text.Visible

/-!
# What a pass works with

An `Engine` stays the same from pass to pass: settings, the rules for expressions, and a notifier.
A notifier is known only by its answers: to every call, after the calls before it, it says nothing
or refuses.

A `World` is what a pass may change besides the record: who holds which role, the failure log, and
the calls made of the notifier.  A `Pass` is a record on its way through the world.
-/

namespace Docket

open Expression (Rules Variables)

/-- Why a notification does not go out. -/
inductive NotifyError where
  | noRecipients
  | rejected (reason : String)
  | unavailable (reason : String)
  deriving DecidableEq, Repr

def NotifyError.message : NotifyError → String
  | .noRecipients => "no recipients"
  | .rejected reason => "notification rejected: " ++ reason
  | .unavailable reason => "notification gateway unavailable: " ++ reason

/-- What a notifier answers to a call after earlier calls: nothing if it succeeds. -/
abbrev Notifier := List Notice → Notice → Option NotifyError

namespace Notifier

/-- The notifier that takes everything. -/
def accepting : Notifier := fun _ _ => none

/-- The notifier that refuses everything for one reason. -/
def refusing (error : NotifyError) : Notifier := fun _ _ => some error

/-- The notifier that only writes down what it is given, and wants a recipient. -/
def logging : Notifier := fun _ notice =>
  if notice.recipients.isEmpty then some .noRecipients else none

end Notifier

/-- Why an operation on a record fails. -/
inductive EngineError where
  | unknownStatus (id : String)
  | workflowMismatch (expected found : String)
  | unknownItem (id : String)
  | notInteractive (id : String)
  | unavailable (id : String)
  | notAuthorised (id : String)
  | fieldNotEditable (field : String)
  | noMatchingTrigger (name : String)
  | unknownGlobalAction (id : String)
  deriving DecidableEq, Repr

namespace EngineError

def message : EngineError → String
  | .unknownStatus id => "record is in unknown status '" ++ id ++ "'"
  | .workflowMismatch expected found =>
    "record belongs to workflow '" ++ found ++ "', not '" ++ expected ++ "'"
  | .unknownItem id => "no action item '" ++ id ++ "' in the current status"
  | .notInteractive id => "action item '" ++ id ++ "' cannot be triggered"
  | .unavailable id => "action item '" ++ id ++ "' is not available"
  | .notAuthorised id => "not authorised to trigger '" ++ id ++ "'"
  | .fieldNotEditable field => "field '" ++ field ++ "' is not editable"
  | .noMatchingTrigger name => "no trigger named '" ++ name ++ "' is available"
  | .unknownGlobalAction id => "unknown global action '" ++ id ++ "'"

/-- Whether the person who acts is told the reason. -/
def isUserVisible : EngineError → Bool
  | .unknownStatus _ | .workflowMismatch .. => false
  | _ => true

end EngineError

/-- What stays the same from pass to pass. -/
structure Engine where
  settings : EngineSettings
  rules : Rules
  notifier : Notifier

def Engine.ofSettings (settings : EngineSettings) (notifier : Notifier) : Engine :=
  ⟨settings, settings.rules, notifier⟩

/-- What a pass may change besides the record. -/
structure World where
  directory : Directory
  log : FailureLog
  /-- The calls made of the notifier, in order. -/
  sent : List Notice
  deriving DecidableEq

/-- How a pass ends. -/
inductive PassState where
  /-- No item acted, and the record waits. -/
  | waiting
  /-- The record waits for a person to fire an item. -/
  | suspended (item : String)
  /-- The record is in an endpoint. -/
  | terminal
  /-- The pass was cut short after too many moves. -/
  | hopLimit
  deriving DecidableEq, Repr

/-- A record on its way through the world. -/
structure Pass where
  record : Record
  world : World
  /-- The moves so far. -/
  hops : Nat
  /-- The failures recorded so far. -/
  failures : Nat
  /-- The jobs left for later, in order. -/
  jobs : List AfterJob
  /-- How the pass ended, once it has. -/
  ending : Option PassState
  deriving DecidableEq

/-- What a pass did. -/
structure Outcome where
  status : String
  state : PassState
  hops : Nat
  failures : Nat
  jobs : List AfterJob
  deriving DecidableEq, Repr

/-- What is around a pass and does not change in it. -/
structure Scene where
  engine : Engine
  graph : Graph
  moment : Moment

namespace Pass

/-- The pass before anything happened. -/
def start (record : Record) (world : World) : Pass :=
  { record, world, hops := 0, failures := 0, jobs := [], ending := none }

/-- What the pass did, if it is over now. -/
def outcome (p : Pass) : Outcome :=
  { status := p.record.status, state := p.ending.getD .waiting, hops := p.hops,
    failures := p.failures, jobs := p.jobs }

end Pass

namespace Scene

variable (s : Scene)

/-- What expressions see of the record of a pass. -/
def bindings (p : Pass) : Variables := p.record.bindings s.graph.workflow s.moment

/-- Where a failure of an item counts. -/
def site (p : Pass) (item : Item) : FailureSite :=
  { workflowId := s.graph.id, statusId := some p.record.status, actionId := some item.id,
    recordId := some p.record.id }

def fail (item : Item) (kind : FailureKind) (cause : String) (p : Pass) : Pass :=
  { p with
    failures := p.failures + 1
    world := { p.world with log := p.world.log.record s.moment.now (s.site p item) kind cause } }

/-- As what a miss counts. -/
def missKind : Miss → FailureKind
  | .role .. => .missingRole
  | .user .. => .missingUser
  | .unreadable .. => .templateFailed

def failAll (item : Item) (misses : List Miss) (p : Pass) : Pass :=
  misses.foldl (fun p miss => s.fail item (missKind miss) miss.message p) p

def resolver (p : Pass) (split : Bool) : Resolver :=
  { directory := p.world.directory, rules := s.engine.rules, submitter := p.record.submitter,
    buckets := p.record.buckets, split }

def admits (p : Pass) (admitted : List String) : Bool :=
  p.world.directory.admits p.record s.moment.user admitted

/-- Whether the condition of an item holds; one that cannot be evaluated does not. -/
def holds (vars : Variables) (item : Item) : Bool :=
  match item.condition with
  | some source =>
    match s.engine.rules.condition vars source with
    | .ok b => b
    | .error _ => false
  | none => true

/-- Records that the condition of an item cannot be evaluated, if it cannot. -/
def noteCondition (vars : Variables) (item : Item) (p : Pass) : Pass :=
  match item.condition with
  | some source =>
    match s.engine.rules.condition vars source with
    | .ok _ => p
    | .error e =>
      s.fail item .conditionFailed ("condition " ++ Text.quoted source ++ " failed: " ++ e.message) p
  | none => p

/-! ## Moves -/

/-- A move that an item asks for. -/
structure Move where
  target : String
  mark : Bool
  origin : Origin
  deriving DecidableEq, Repr

/-- What becomes of a move. -/
inductive MoveResult where
  | moved
  | stayed
  | limited
  deriving DecidableEq, Repr

/-- The line of the history that an item leaves. -/
def entry (item : Item) (status : Option String) (origin : Origin) : Entry :=
  { time := s.moment.now, status, actor := s.moment.user, origin, action := some item.id,
    label := item.label }

/-- Moves the record.  The limit is checked before the target, and a jump back with nothing marked
leaves the record where it is. -/
def move (item : Item) (m : Move) (p : Pass) : Pass × MoveResult :=
  if s.engine.settings.maxHops ≤ p.hops then
    let p := s.fail item .tooManyJumps
      ("too many jumps (limit " ++ toString s.engine.settings.maxHops ++ ")") p
    ({ p with ending := some .hopLimit }, .limited)
  else
    match p.record.marks.resolve p.record.status m.target m.mark with
    | (marks, .stay) => ({ p with record := { p.record with marks } }, .stayed)
    | (marks, .status next) =>
      ({ p with
        hops := p.hops + 1
        record := { p.record with
          marks
          history := p.record.history ++ [s.entry item (some next) m.origin]
          lastUpdate := s.moment.now
          status := next } }, .moved)

end Scene
end Docket
