import Docket.Json
import Docket.Keyed

/-!
# Workflows

A workflow is plain data: statuses with ordered action items, and global actions with items of their
own.  A record is always in one status of its workflow, and the items of that status say what may
happen to it.

An item is *interactive* if only a person fires it, by naming it: a choice or an edit.  Every other
item acts by itself in a pass.
-/

namespace Docket

/-- The target of a jump back to the status that was marked last. -/
def previous : String := "_previous"

/-- When a jump happens. -/
inductive JumpMode where
  /-- As soon as a pass reaches it. -/
  | immediate
  /-- Only when an outside trigger with this name is fired. -/
  | trigger (name : String)
  /-- When the record has not changed for this many seconds. -/
  | timeout (seconds : Int)
  deriving DecidableEq, Repr

/-- A jump to another status. -/
structure Jump where
  target : String
  /-- Whether the status that is left is marked, so that a later jump can come back. -/
  mark : Bool
  mode : JumpMode
  deriving DecidableEq, Repr

/-- A choice that a person makes. -/
structure Choice where
  label : String
  /-- Who may make it; everybody if the list is empty. -/
  admitted : List String
  needsConfirmation : Bool
  confirmation : Option String
  target : String
  mark : Bool
  deriving DecidableEq, Repr

/-- What a dispatch does to the roles of a function. -/
inductive DispatchMode where
  | set
  | add
  | remove
  deriving DecidableEq, Repr

/-- A role for a value of the variable of a dispatch. -/
structure DispatchRule where
  role : String
  value : Json
  deriving DecidableEq, Repr

/-- A routing of roles into a function of the workflow.  With a variable, the first rule that
matches its value names the roles; without one, the specification does. -/
structure Dispatch where
  function : String
  mode : DispatchMode
  spec : Option String
  source : Option String
  rules : List DispatchRule
  deriving DecidableEq, Repr

/-- The fields that an edit may change. -/
inductive EditScope where
  | full
  | fields (names : List String)
  deriving DecidableEq, Repr

/-- A form that a person may fill in. -/
structure Edit where
  label : Option String
  /-- Who may fill it in; everybody if the list is empty. -/
  admitted : List String
  /-- The status to move to after the edit. -/
  target : Option String
  scope : EditScope
  deriving DecidableEq, Repr

/-- How urgent a message is. -/
inductive MessageLevel where
  | info
  | success
  | warning
  | error
  deriving DecidableEq, Repr

/-- A message that is shown with a record. -/
structure Message where
  /-- Who sees it; everybody if the list is empty. -/
  viewers : List String
  level : Option MessageLevel
  template : String
  deriving DecidableEq, Repr

/-- The ways to notify somebody. -/
inductive Channel where
  | sms
  | webservice
  deriving DecidableEq, Repr

/-- A notification that is sent in a pass. -/
structure Notification where
  channel : Channel
  recipients : String
  body : String
  title : Option String
  deriving DecidableEq, Repr

/-- Giving a role or taking it away. -/
inductive RoleOperation where
  | add
  | remove
  deriving DecidableEq, Repr

/-- Whether a change of roles goes on to the identity provider. -/
inductive RoleChangeMode where
  | propagate
  | localOnly
  deriving DecidableEq, Repr

/-- A change of the roles of a record's submitter. -/
structure RoleChange where
  spec : String
  mode : RoleChangeMode
  deriving DecidableEq, Repr

/-- What an item does. -/
inductive Action where
  | jump (jump : Jump)
  | choice (choice : Choice)
  | dispatch (dispatch : Dispatch)
  | edit (edit : Edit)
  | message (message : Message)
  | notify (notification : Notification)
  | changeRole (operation : RoleOperation) (change : RoleChange)
  deriving DecidableEq, Repr

/-- An action item of a status or of a global action. -/
structure Item where
  id : String
  /-- The expression that must hold for the item to act; it always does where there is none. -/
  condition : Option String
  /-- A label for the lines of a record's history. -/
  label : Option String
  action : Action
  deriving DecidableEq, Repr

/-- A status of a workflow. -/
structure Status where
  id : String
  name : String
  items : List Item
  isEndpoint : Bool
  deriving DecidableEq, Repr

/-- What starts a global action. -/
inductive GlobalTrigger where
  /-- A person who is admitted. -/
  | manual (admitted : List String)
  /-- A call from outside with this name. -/
  | webservice (name : String)
  deriving DecidableEq, Repr

/-- Items that run outside of the flow from status to status. -/
structure GlobalAction where
  id : String
  name : String
  triggers : List GlobalTrigger
  items : List Item
  deriving DecidableEq, Repr

/-- A workflow. -/
structure Workflow where
  id : String
  name : String
  initial : String
  statuses : List Status
  /-- The functions of the workflow with their labels. -/
  functions : Table String
  globalActions : List GlobalAction
  deriving DecidableEq, Repr

/-- Whether an edit may change a field. -/
def EditScope.allows (scope : EditScope) (field : String) : Bool :=
  match scope with
  | .full => true
  | .fields names => names.contains field

/-- Whether the roles of a dispatch are computed. -/
def Dispatch.isAutomatic (d : Dispatch) : Bool := d.source.isSome

/-- Whether only a person fires an item. -/
def Item.isInteractive (item : Item) : Bool :=
  match item.action with
  | .choice _ | .edit _ => true
  | _ => false

/-- Whether a global action is started by a call from outside. -/
def GlobalAction.answersTo (action : GlobalAction) (name : String) : Bool :=
  action.triggers.contains (.webservice name)

def Status.item? (status : Status) (id : String) : Option Item :=
  status.items.find? fun i => i.id = id

namespace Workflow

def status? (w : Workflow) (id : String) : Option Status := w.statuses.find? fun s => s.id = id

def globalAction? (w : Workflow) (id : String) : Option GlobalAction :=
  w.globalActions.find? fun a => a.id = id

def items (w : Workflow) : List Item :=
  w.statuses.flatMap Status.items ++ w.globalActions.flatMap GlobalAction.items

end Workflow
end Docket
