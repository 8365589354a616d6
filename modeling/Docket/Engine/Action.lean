import Docket.Dispatch
import Docket.Engine.World

/-!
# What an item does by itself

A jump asks for a move; the other actions change the world or the record's functions, or leave a job
behind, and the pass goes on with the next item.  Nothing here fails: what goes wrong is recorded.
-/

namespace Docket.Scene

open Expression (Variables)

variable (s : Scene)

/-- The move that a jump asks for now.  A jump for a trigger asks for none, and one with a timeout
only when the record has not changed for that many whole seconds. -/
def jumpMove (p : Pass) (jump : Jump) : Option Move :=
  match jump.mode with
  | .immediate => some ⟨jump.target, jump.mark, s.moment.origin⟩
  | .trigger _ => none
  | .timeout seconds =>
    if s.moment.now.secondsSince p.record.lastUpdate < seconds then none
    else some ⟨jump.target, jump.mark, .timeout⟩

/-! ## Dispatch -/

/-- The roles that the rules of a dispatch give for the value of a source. -/
def computedRoles (vars : Variables) (item : Item) (dispatch : Dispatch) (source : String)
    (p : Pass) : List String × Pass :=
  match s.engine.rules.evaluate vars source with
  | .error e =>
    ([], s.fail item .dispatchFailed ("cannot compute " ++ Text.quoted source ++ ": " ++ e.message) p)
  | .ok value =>
    match dispatch.rules.find? fun r => ruleMatches s.engine.settings.coercion value r.value with
    | none => ([], p)
    | some rule =>
      let (roles, misses) := (s.resolver p false).resolve vars rule.role
      (roles, s.failAll item misses p)

/-- The roles of a value, which may also name a user who is found by other attributes. -/
def roleOrUser (r : Resolver) (template : Option String) (value : String) :
    Except Miss (List String) :=
  match r.resolveOne template value with
  | .error (.role v t) =>
    match r.findUser? value with
    | some u => .ok [userRole u.id]
    | none => .error (.role v t)
  | other => other

/-- The roles of a specification, the values of which may also name users. -/
def specifiedRoles (vars : Variables) (item : Item) (spec : String) (p : Pass) : List String × Pass :=
  let r := s.resolver p false
  match r.expand vars spec with
  | .error miss => ([], s.failAll item [miss] p)
  | .ok values =>
    let results := values.map (roleOrUser r (Resolver.templateOf spec))
    (results.flatMap fun x => match x with | .ok roles => roles | .error _ => [],
      s.failAll item (results.filterMap fun x => match x with | .ok _ => none | .error m => some m) p)

def dispatchRoles (vars : Variables) (item : Item) (dispatch : Dispatch) (p : Pass) :
    List String × Pass :=
  match dispatch.source, dispatch.spec with
  | some source, _ => s.computedRoles vars item dispatch source p
  | none, some spec => s.specifiedRoles vars item spec p
  | none, none => ([], p)

/-- Routes roles into a function of the record, if there are any. -/
def performDispatch (vars : Variables) (item : Item) (dispatch : Dispatch) (p : Pass) : Pass :=
  let (roles, p) := s.dispatchRoles vars item dispatch p
  if roles.isEmpty then p
  else
    { p with record := { p.record with
      buckets := p.record.buckets.dispatch dispatch.function dispatch.mode roles } }

/-! ## Notifications -/

/-- The recipients of a notification: the values of the template themselves, or the addresses of the
reachable users whom they mean. -/
def recipients (vars : Variables) (item : Item) (n : Notification) (p : Pass) :
    List String × Pass :=
  match n.channel with
  | .sms =>
    match s.engine.rules.render vars n.recipients with
    | .ok v => (flatten true v, p)
    | .error e => ([], s.fail item .templateFailed e.message p)
  | .webservice =>
    let r := s.resolver p true
    let (roles, misses) := r.resolve vars n.recipients
    (((r.usersOf roles).filter User.isReachable).map User.address, s.failAll item misses p)

def metadata (p : Pass) (item : Item) (n : Notification) : Json :=
  Json.object [("workflow_id", .str p.record.workflowId), ("record_id", .str p.record.id.write),
    ("status_id", .str p.record.status), ("action_id", .str item.id), ("title", .text? n.title)]

/-- Sends a notice, or leaves it for later. -/
def deliver (item : Item) (notice : Notice) (p : Pass) : Pass :=
  if s.engine.settings.deferNotifications then
    { p with jobs := p.jobs ++ [.notify (s.site p item) notice] }
  else
    let answer := s.engine.notifier p.world.sent notice
    let p := { p with world := { p.world with sent := p.world.sent ++ [notice] } }
    match answer with
    | some e => s.fail item .notifyFailed e.message p
    | none => p

def performNotify (vars : Variables) (item : Item) (n : Notification) (p : Pass) : Pass :=
  let (recipients, p) := s.recipients vars item n p
  if recipients.isEmpty then p
  else
    match s.engine.rules.renderText vars n.body with
    | .error e => s.fail item .templateFailed e.message p
    | .ok body =>
      s.deliver item
        { channel := n.channel, recipients, body, metadata := metadata p item n } p

/-! ## Roles of the submitter -/

def changeRole (operation : RoleOperation) (user role : String) (d : Directory) :
    Except Directory.Error (Bool × Directory) :=
  match operation with
  | .add => d.grant user role
  | .remove => d.revoke user role

/-- Changes one role of the submitter, and leaves a job if the identity provider knows the user. -/
def performRole (item : Item) (operation : RoleOperation) (mode : RoleChangeMode) (user : String)
    (nameIds : List String) (p : Pass) (role : String) : Pass :=
  match changeRole operation user role p.world.directory with
  | .error e => s.fail item .directoryFailed e.message p
  | .ok (_, directory) =>
    let p := { p with world := { p.world with directory } }
    if mode = .propagate ∧ nameIds ≠ [] then
      { p with jobs := p.jobs ++
        [.syncRole (s.site p item) { userId := user, nameIds, roleId := role, operation }] }
    else p

/-- Changes the roles of the submitter, if there is one.  Pseudo roles cannot be given or taken. -/
def performRoles (vars : Variables) (item : Item) (operation : RoleOperation) (change : RoleChange)
    (p : Pass) : Pass :=
  match p.record.submitter with
  | none => p
  | some user =>
    let (roles, misses) := (s.resolver p false).resolve vars change.spec
    let p := s.failAll item misses p
    let nameIds := match p.world.directory.user? user with
      | some u => u.nameIds
      | none => []
    (roles.filter fun role => (userOfRole? role).isNone).foldl
      (s.performRole item operation change.mode user nameIds) p

/-! ## All actions -/

/-- Does what an item does, and says which move it asks for, if any. -/
def perform (vars : Variables) (item : Item) (p : Pass) : Pass × Option Move :=
  match item.action with
  | .jump jump => (p, s.jumpMove p jump)
  | .dispatch dispatch => (s.performDispatch vars item dispatch p, none)
  | .notify notification => (s.performNotify vars item notification p, none)
  | .changeRole operation change => (s.performRoles vars item operation change p, none)
  | .message _ | .choice _ | .edit _ => (p, none)

end Docket.Scene
