import Docket.Engine.Pass

/-!
# Operations on a record

`run` visits the statuses of a record by itself.  `submit` fires an item on behalf of a person,
`trigger` a jump or a global action on behalf of the outside, `runGlobal` a global action, and each
then goes on like `run`.  Everything is checked before anything is done: an operation that is
refused leaves the record and the directory as they were.
-/

namespace Docket

open Expression (Variables)

/-- The record and the world after an operation, and what the operation answers. -/
structure Reply (α : Type) where
  record : Record
  world : World
  answer : Except EngineError α

namespace Scene

variable (s : Scene)

/-- Begins a pass, if the record belongs to the workflow. -/
def begin? (record : Record) : Except EngineError Unit :=
  if record.workflowId = s.graph.id then .ok ()
  else .error (.workflowMismatch s.graph.id record.workflowId)

def statusOf (record : Record) : Except EngineError Status :=
  match s.graph.status? record.status with
  | some status => .ok status
  | none => .error (.unknownStatus record.status)

/-- The end of a pass that nothing stopped, or the reason why it was stopped. -/
def finish (r : Pass × Except EngineError Unit) : Reply Outcome :=
  { record := r.1.record, world := r.1.world, answer := r.2.map fun _ => r.1.outcome }

def refuse {α : Type} (p : Pass) (e : EngineError) : Reply α :=
  { record := p.record, world := p.world, answer := .error e }

/-! ## Passes without anybody -/

/-- Visits the statuses of a record. -/
def run (record : Record) (world : World) : Reply Outcome :=
  let p := Pass.start record world
  match s.begin? record with
  | .error e => refuse p e
  | .ok () => finish (s.goOn p)

/-! ## Items that a person fires -/

/-- The item of a status that a person names. -/
def namedItem (status : Status) (id : String) : Except EngineError Item :=
  match status.item? id with
  | none => .error (.unknownItem id)
  | some item => if item.isInteractive then .ok item else .error (.notInteractive id)

/-- Whether an edit may change a field. -/
def mayEdit (edit : Edit) (field : String) : Bool := !Record.isHidden field && edit.scope.allows field

/-- Puts the fields of a form into the data. -/
def fillIn (form data : Table Json) : Table Json :=
  form.items.foldl (fun data f => Table.set f.1 f.2 data) data

def noteEdit (item : Item) (p : Pass) : Pass :=
  { p with record := { p.record with
    history := p.record.history ++ [s.entry item none s.moment.origin]
    lastUpdate := s.moment.now } }

/-- Fills in a form and moves the record, or notes the edit if it does not move. -/
def applyEdit (item : Item) (edit : Edit) (form : Table Json) (p : Pass) : Pass :=
  let p := { p with record := { p.record with data := fillIn form p.record.data } }
  match edit.target with
  | none => s.noteEdit item p
  | some target =>
    match s.move item ⟨target, false, s.moment.origin⟩ p with
    | (p, .moved) => p
    | (p, _) => s.noteEdit item p

/-- Fires an item whose condition holds. -/
def fire (item : Item) (form : Table Json) (p : Pass) : Except EngineError Pass :=
  match item.action with
  | .choice choice =>
    if s.admits p choice.admitted then
      .ok (s.move item ⟨choice.target, choice.mark, s.moment.origin⟩ p).1
    else .error (.notAuthorised item.id)
  | .edit edit =>
    if s.admits p edit.admitted then
      match form.names.find? fun field => !mayEdit edit field with
      | some field => .error (.fieldNotEditable field)
      | none => .ok (s.applyEdit item edit form p)
    else .error (.notAuthorised item.id)
  | _ => .error (.notInteractive item.id)

/-- Fires the item that a person names, and goes on. -/
def submit (record : Record) (world : World) (id : String) (form : Table Json) : Reply Outcome :=
  let p := Pass.start record world
  match (do s.begin? record; namedItem (← s.statusOf record) id) with
  | .error e => refuse p e
  | .ok item =>
    let vars := s.bindings p
    let p := s.noteCondition vars item p
    if s.holds vars item then
      match s.fire item form p with
      | .error e => refuse p e
      | .ok p => finish (s.goOn p)
    else refuse p (.unavailable id)

/-! ## Global actions and triggers -/

def runItems (action : GlobalAction) (p : Pass) : Reply Outcome :=
  match s.statusOf p.record with
  | .error e => refuse p e
  | .ok _ => finish (s.goOn (s.performGlobal (s.bindings p) action.items p))

/-- The jump of an item that waits for a trigger. -/
def triggeredJump? (item : Item) (name : String) : Option Jump :=
  match item.action with
  | .jump jump => if jump.mode = .trigger name then some jump else none
  | _ => none

/-- The first item that waits for a trigger and whose condition holds.  The conditions of those
before it are recorded where they cannot be evaluated. -/
def firstTriggered (vars : Variables) (name : String) : List Item → Pass → Pass × Option (Item × Jump)
  | [], p => (p, none)
  | item :: rest, p =>
    match triggeredJump? item name with
    | none => firstTriggered vars name rest p
    | some jump =>
      let p := s.noteCondition vars item p
      if s.holds vars item then (p, some (item, jump)) else firstTriggered vars name rest p

/-- Fires the first jump that waits for a trigger, else the first global action that answers to it,
and goes on. -/
def trigger (record : Record) (world : World) (name : String) : Reply Outcome :=
  let p := Pass.start record world
  match (do s.begin? record; s.statusOf record) with
  | .error e => refuse p e
  | .ok status =>
    match s.firstTriggered (s.bindings p) name status.items p with
    | (p, some (item, jump)) =>
      finish (s.goOn (s.move item ⟨jump.target, jump.mark, s.moment.origin⟩ p).1)
    | (p, none) =>
      match s.graph.workflow.globalActions.find? fun a => a.answersTo name with
      | none => refuse p (.noMatchingTrigger name)
      | some action => s.runItems action p

/-- Whether a trigger of a global action admits who is acting: a person who is admitted, or anybody
from outside. -/
def startedBy (p : Pass) : GlobalTrigger → Bool
  | .manual admitted => s.moment.user.isSome && s.admits p admitted
  | .webservice _ => s.moment.origin = .webservice

/-- Runs a global action that is named, if one of its triggers admits who is acting, and goes on. -/
def runGlobal (record : Record) (world : World) (id : String) : Reply Outcome :=
  let p := Pass.start record world
  match s.begin? record with
  | .error e => refuse p e
  | .ok () =>
    match s.graph.workflow.globalAction? id with
    | none => refuse p (.unknownGlobalAction id)
    | some action =>
      if action.triggers.any (s.startedBy p) then s.runItems action p
      else refuse p (.notAuthorised id)

end Scene
end Docket
