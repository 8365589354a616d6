import Docket.Expression.Rules
import Docket.Json.Reader
import Docket.Workflow.Codec

/-!
# Loading a workflow

A definition is checked before any record runs on it: identifiers are unique, the first status and
every target exist, and every text that will be evaluated is one that the rules for expressions
admit.  A `Graph` is a workflow that passed, so nothing is checked again when a record moves.

`Workflow.check` reports the first rule that is broken, in the order in which the rules are listed
there.
-/

namespace Docket

open Expression (Rules)

/-- A text of an item that is evaluated. -/
inductive ItemText where
  | condition
  | source
  | spec
  | ruleRole
  | template
  | recipients
  | body
  deriving DecidableEq, Repr

def ItemText.name : ItemText → String
  | .condition => "condition"
  | .source => "variable"
  | .spec => "role_spec"
  | .ruleRole => "rule role"
  | .template => "template"
  | .recipients => "recipients_template"
  | .body => "body_template"

/-- Why a definition is refused. -/
inductive LoadError where
  | duplicateStatus (id : String)
  | duplicateItem (id : String)
  | duplicateGlobalAction (id : String)
  | unknownInitial (id : String)
  | danglingTarget (item target : String)
  | incompleteDispatch (item : String)
  | unknownKind (item tag : String)
  | invalidText (item : String) (text : ItemText) (error : Expression.Error)
  /-- The text is no JSON, or the value has not the form of a workflow. -/
  | malformed
  deriving DecidableEq, Repr

def LoadError.message : LoadError → String
  | .duplicateStatus id => "duplicate status id: '" ++ id ++ "'"
  | .duplicateItem id => "duplicate action item id: '" ++ id ++ "'"
  | .duplicateGlobalAction id => "duplicate global action id: '" ++ id ++ "'"
  | .unknownInitial id => "initial status '" ++ id ++ "' is not declared"
  | .danglingTarget item target => "item '" ++ item ++ "' targets unknown status '" ++ target ++ "'"
  | .incompleteDispatch item => "dispatch item '" ++ item ++ "' needs a variable or a role_spec"
  | .unknownKind item tag => "item '" ++ item ++ "' has unknown action type '" ++ tag ++ "'"
  | .invalidText item text error =>
    "item '" ++ item ++ "' has an invalid " ++ text.name ++ ": " ++ error.message
  | .malformed => "malformed workflow definition"

/-- The first name of a list that stands in it before. -/
def firstRepeated (names : List String) : Option String := go [] names
where
  /-- The first name that is among those before it. -/
  go (seen : List String) : List String → Option String
    | [] => none
    | n :: rest => if n ∈ seen then some n else go (n :: seen) rest

/-! ## The checks of an item -/

namespace Item

variable (rules : Rules)

/-- Checks that a target is a status, or a jump back. -/
def checkTarget (item : Item) (statuses : List String) (target : String) : Except LoadError Unit :=
  if target = previous ∨ target ∈ statuses then .ok ()
  else .error (.danglingTarget item.id target)

def checkExpression (item : Item) (text : ItemText) (source : String) : Except LoadError Unit :=
  match rules.compile source with
  | .ok _ => .ok ()
  | .error e => .error (.invalidText item.id text e)

/-- Checks a text that is a template if it has marks of one. -/
def checkTemplate (item : Item) (text : ItemText) (source : String) : Except LoadError Unit :=
  if Expression.isTemplate source then
    match rules.compileTemplate source with
    | .ok _ => .ok ()
    | .error e => .error (.invalidText item.id text e)
  else .ok ()

/-- Checks what is there. -/
def checkSome {α : Type} (check : α → Except LoadError Unit) : Option α → Except LoadError Unit
  | some a => check a
  | none => .ok ()

/-- Checks each of a list, up to the first that is refused. -/
def checkEach {α : Type} (check : α → Except LoadError Unit) : List α → Except LoadError Unit
  | [] => .ok ()
  | a :: rest => do
    check a
    checkEach check rest

def checkAction (item : Item) (statuses : List String) : Except LoadError Unit :=
  match item.action with
  | .jump jump => item.checkTarget statuses jump.target
  | .choice choice => item.checkTarget statuses choice.target
  | .edit edit => checkSome (item.checkTarget statuses) edit.target
  | .dispatch dispatch => do
    if dispatch.source.isNone && dispatch.spec.isNone then
      .error (.incompleteDispatch item.id)
    checkSome (item.checkExpression rules .source) dispatch.source
    checkSome (item.checkTemplate rules .spec) dispatch.spec
    checkEach (fun rule => item.checkTemplate rules .ruleRole rule.role) dispatch.rules
  | .message message => item.checkTemplate rules .template message.template
  | .notify notification => do
    item.checkTemplate rules .recipients notification.recipients
    item.checkTemplate rules .body notification.body
  | .changeRole _ change => item.checkTemplate rules .spec change.spec

def check (item : Item) (statuses : List String) : Except LoadError Unit := do
  checkSome (item.checkExpression rules .condition) item.condition
  item.checkAction rules statuses

end Item

/-! ## The checks of a workflow -/

namespace Workflow

/-- Checks that no name of a list is repeated. -/
def checkDistinct (error : String → LoadError) (names : List String) : Except LoadError Unit :=
  match firstRepeated names with
  | some n => .error (error n)
  | none => .ok ()

/-- Checks a workflow against the rules for loading. -/
def check (rules : Rules) (w : Workflow) : Except LoadError Unit := do
  let statuses := w.statuses.map Status.id
  checkDistinct .duplicateStatus statuses
  checkDistinct .duplicateItem (w.items.map Item.id)
  checkDistinct .duplicateGlobalAction (w.globalActions.map GlobalAction.id)
  if w.initial ∉ statuses then
    .error (.unknownInitial w.initial)
  Item.checkEach (fun item => item.check rules statuses) w.items

end Workflow

/-! ## Graphs -/

/-- A workflow that has passed the checks under some rules for expressions. -/
structure Graph where
  rules : Rules
  workflow : Workflow
  checked : workflow.check rules = .ok ()

namespace Graph

def id (g : Graph) : String := g.workflow.id

/-- The statuses by their identifiers. -/
def index (g : Graph) : Keyed Status.id := Keyed.ofList g.workflow.statuses

def status? (g : Graph) (id : String) : Option Status := g.index.get? id

/-- The graph of a workflow, if it passes. -/
def ofWorkflow (rules : Rules) (w : Workflow) : Except LoadError Graph :=
  match h : w.check rules with
  | .ok () => .ok ⟨rules, w, h⟩
  | .error e => .error e

/-! ## Definitions as text -/

/-- The items of a list of statuses or global actions, whatever the form of the rest. -/
def rawItems (container : Json) : List Json :=
  match container.field? "items" with
  | some (.arr items) => items
  | _ => []

/-- The statuses or the global actions of a definition, whatever the form of the rest. -/
def rawContainers (definition : Json) (name : String) : List Json :=
  match definition.field? name with
  | some (.arr containers) => containers
  | _ => []

/-- A field of an item that is a text. -/
def rawText? (item : Json) (name : String) : Option String :=
  match item.field? name with
  | some (.str s) => some s
  | _ => none

/-- Checks that the kind of an item is known, so that a refusal can name the item. -/
def checkKind (item : Json) : Except LoadError Unit :=
  let tag := (rawText? item "type").getD ""
  if tag ∈ ActionKind.all.map ActionKind.name then .ok ()
  else .error (.unknownKind ((rawText? item "id").getD "?") tag)

/-- The graph of a definition that was read. -/
def ofJson (rules : Rules) (definition : Json) : Except LoadError Graph := do
  let containers := rawContainers definition "statuses" ++ rawContainers definition "global_actions"
  Item.checkEach checkKind (containers.flatMap rawItems)
  match Workflow.decode definition with
  | some w => ofWorkflow rules w
  | none => .error .malformed

def load (rules : Rules) (definition : String) : Except LoadError Graph :=
  match Json.read? definition with
  | some j => ofJson rules j
  | none => .error .malformed

end Graph
end Docket
