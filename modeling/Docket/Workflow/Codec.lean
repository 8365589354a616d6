import Docket.Json.Decoder
import Docket.Workflow

/-!
# Workflows as JSON

A definition is read from JSON and written back to it.  Writing gives every field, the optional ones
as null where there is nothing.  An item is flat: the fields of its action stand beside its own, and
`type` names the kind of the action.
-/

namespace Docket

open Decoder

/-! ## Names of cases -/

/-- The kinds of actions. -/
inductive ActionKind where
  | jump
  | choice
  | dispatch
  | edit
  | message
  | notify
  | addRole
  | removeRole
  deriving DecidableEq, Repr

namespace ActionKind

def all : List ActionKind :=
  [.jump, .choice, .dispatch, .edit, .message, .notify, .addRole, .removeRole]

def name : ActionKind → String
  | .jump => "jump"
  | .choice => "choice"
  | .dispatch => "dispatch"
  | .edit => "editable"
  | .message => "display_message"
  | .notify => "notify"
  | .addRole => "add_role"
  | .removeRole => "remove_role"

end ActionKind

def Action.kind : Action → ActionKind
  | .jump _ => .jump
  | .choice _ => .choice
  | .dispatch _ => .dispatch
  | .edit _ => .edit
  | .message _ => .message
  | .notify _ => .notify
  | .changeRole .add _ => .addRole
  | .changeRole .remove _ => .removeRole

def DispatchMode.name : DispatchMode → String
  | .set => "set"
  | .add => "add"
  | .remove => "remove"

def MessageLevel.name : MessageLevel → String
  | .info => "info"
  | .success => "success"
  | .warning => "warning"
  | .error => "error"

def Channel.name : Channel → String
  | .sms => "sms"
  | .webservice => "webservice"

def RoleOperation.name : RoleOperation → String
  | .add => "add"
  | .remove => "remove"

def RoleChangeMode.name : RoleChangeMode → String
  | .propagate => "propagate"
  | .localOnly => "local_only"

/-! ## Reading -/

def Channel.decode (place : Place) : Decoder Channel := case place name [.sms, .webservice]

def RoleOperation.decode (place : Place) : Decoder RoleOperation := case place name [.add, .remove]

def JumpMode.decode : Decoder JumpMode :=
  tagged "kind" (tag .item id ["immediate", "trigger", "timeout"]) fun kind =>
    match kind with
    | "immediate" => return .immediate
    | "trigger" => return .trigger (← field "name" text)
    | _ => return .timeout (← field "seconds" int64)

def Jump.fields : Fields Jump := do
  return {
    target := ← field "target" text
    mark := ← fieldOr "mark" flag false
    mode := ← fieldOr "mode" JumpMode.decode .immediate }

def Choice.fields : Fields Choice := do
  return {
    label := ← field "label" text
    admitted := ← fieldOr "by" (list text) []
    needsConfirmation := ← fieldOr "require_confirmation" flag false
    confirmation := ← fieldOrNone "confirmation_text" text
    target := ← field "target" text
    mark := ← fieldOr "mark" flag false }

def DispatchRule.decode : Decoder DispatchRule := record do
  return { role := ← field "role" text, value := ← field "value" any }

def Dispatch.fields : Fields Dispatch := do
  return {
    function := ← field "role_key" text
    mode := ← fieldOr "mode" (case .item DispatchMode.name [.set, .add, .remove]) .set
    spec := ← fieldOrNone "role_spec" text
    source := ← fieldOrNone "variable" text
    rules := ← fieldOr "rules" (list DispatchRule.decode) [] }

def EditScope.decode : Decoder EditScope
  | .obj [("fields", j)] => (list text j).map .fields
  | j => case .item (fun _ => "full") [.full] j

def Edit.fields : Fields Edit := do
  return {
    label := ← fieldOrNone "label" text
    admitted := ← fieldOr "by" (list text) []
    target := ← fieldOrNone "target_status" text
    scope := ← fieldOr "scope" EditScope.decode .full }

def Message.fields : Fields Message := do
  return {
    viewers := ← fieldOr "to" (list text) []
    level := ← fieldOrNone "level"
      (case .item MessageLevel.name [.info, .success, .warning, .error])
    template := ← field "template" text }

def Notification.fields : Fields Notification := do
  return {
    channel := ← field "channel" (Channel.decode .item)
    recipients := ← field "recipients_template" text
    body := ← field "body_template" text
    title := ← fieldOrNone "title" text }

def RoleChange.fields : Fields RoleChange := do
  return {
    spec := ← field "role_spec" text
    mode := ← fieldOr "mode" (case .item RoleChangeMode.name [.propagate, .localOnly]) .propagate }

def Action.fields : ActionKind → Fields Action
  | .jump => return .jump (← Jump.fields)
  | .choice => return .choice (← Choice.fields)
  | .dispatch => return .dispatch (← Dispatch.fields)
  | .edit => return .edit (← Edit.fields)
  | .message => return .message (← Message.fields)
  | .notify => return .notify (← Notification.fields)
  | .addRole => return .changeRole .add (← RoleChange.fields)
  | .removeRole => return .changeRole .remove (← RoleChange.fields)

/-- Reads an item, which is always an object. -/
def Item.decode : Decoder Item
  | .obj fs => do
    let kind ← tag .item ActionKind.name ActionKind.all (← Json.Fields.get? fs "type")
    Row.readAll (.named fs) do
      return {
        id := ← field "id" text
        condition := ← fieldOrNone "condition" text
        label := ← fieldOrNone "identifier" text
        action := ← Action.fields kind }
  | _ => none

def Status.decode : Decoder Status := record do
  return {
    id := ← field "id" text
    name := ← field "name" text
    items := ← fieldOr "items" (list Item.decode) []
    isEndpoint := ← fieldOr "is_endpoint" flag false }

def GlobalTrigger.decode : Decoder GlobalTrigger :=
  tagged "type" (tag .own id ["manual", "webservice"]) fun kind =>
    match kind with
    | "manual" => return .manual (← fieldOr "by" (list text) [])
    | _ => return .webservice (← field "name" text)

def GlobalAction.decode : Decoder GlobalAction := record do
  return {
    id := ← field "id" text
    name := ← field "name" text
    triggers := ← fieldOr "triggers" (list GlobalTrigger.decode) []
    items := ← fieldOr "items" (list Item.decode) [] }

def Workflow.decode : Decoder Workflow := record do
  return {
    id := ← field "id" text
    name := ← field "name" text
    initial := ← field "initial_status" text
    statuses := ← field "statuses" (list Status.decode)
    functions := ← fieldOr "roles" (table text) ∅
    globalActions := ← fieldOr "global_actions" (list GlobalAction.decode) [] }

/-! ## Writing -/

def JumpMode.toJson : JumpMode → Json
  | .immediate => Json.object [("kind", .str "immediate")]
  | .trigger name => Json.object [("kind", .str "trigger"), ("name", .str name)]
  | .timeout seconds => Json.object [("kind", .str "timeout"), ("seconds", .int seconds)]

def DispatchRule.toJson (r : DispatchRule) : Json :=
  Json.object [("role", .str r.role), ("value", r.value)]

def EditScope.toJson : EditScope → Json
  | .full => .str "full"
  | .fields names => Json.object [("fields", .texts names)]

def Action.toFields : Action → List (String × Json)
  | .jump j => [("target", .str j.target), ("mark", .bool j.mark), ("mode", j.mode.toJson)]
  | .choice c =>
    [("label", .str c.label), ("by", .texts c.admitted),
      ("require_confirmation", .bool c.needsConfirmation),
      ("confirmation_text", .text? c.confirmation), ("target", .str c.target),
      ("mark", .bool c.mark)]
  | .dispatch d =>
    [("role_key", .str d.function), ("mode", .str d.mode.name), ("role_spec", .text? d.spec),
      ("variable", .text? d.source), ("rules", .arr (d.rules.map DispatchRule.toJson))]
  | .edit e =>
    [("label", .text? e.label), ("by", .texts e.admitted), ("target_status", .text? e.target),
      ("scope", e.scope.toJson)]
  | .message m =>
    [("to", .texts m.viewers), ("level", .text? (m.level.map MessageLevel.name)),
      ("template", .str m.template)]
  | .notify n =>
    [("channel", .str n.channel.name), ("recipients_template", .str n.recipients),
      ("body_template", .str n.body), ("title", .text? n.title)]
  | .changeRole _ c => [("role_spec", .str c.spec), ("mode", .str c.mode.name)]

def Item.toJson (item : Item) : Json :=
  Json.object ([("id", .str item.id), ("condition", .text? item.condition),
    ("identifier", .text? item.label), ("type", .str item.action.kind.name)] ++ item.action.toFields)

def Status.toJson (s : Status) : Json :=
  Json.object [("id", .str s.id), ("name", .str s.name), ("items", .arr (s.items.map Item.toJson)),
    ("is_endpoint", .bool s.isEndpoint)]

def GlobalTrigger.toJson : GlobalTrigger → Json
  | .manual admitted => Json.object [("type", .str "manual"), ("by", .texts admitted)]
  | .webservice name => Json.object [("type", .str "webservice"), ("name", .str name)]

def GlobalAction.toJson (a : GlobalAction) : Json :=
  Json.object [("id", .str a.id), ("name", .str a.name),
    ("triggers", .arr (a.triggers.map GlobalTrigger.toJson)),
    ("items", .arr (a.items.map Item.toJson))]

def Workflow.toJson (w : Workflow) : Json :=
  Json.object [("id", .str w.id), ("name", .str w.name), ("initial_status", .str w.initial),
    ("statuses", .arr (w.statuses.map Status.toJson)),
    ("roles", .ofTable (w.functions.mapValues .str)),
    ("global_actions", .arr (w.globalActions.map GlobalAction.toJson))]

end Docket
