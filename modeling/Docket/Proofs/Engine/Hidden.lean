import Docket.Engine.View
import Docket.Proofs.Engine.Course

/-! # Passes over other data

A pass and the same pass over other data, in scenes that differ in what the host adds to the
variables, go the same way as long as the variables that the catalogue admits have the same values.
`Pass.withData` exchanges the data and `Scene.withHost` what the host adds.

For every function `X` of a pass that is given variables, `X_withData` says that `X` after the
exchange is the exchange after `X`.  Nothing but an expression reads the data, so only the
variables (`bindings_alike`) connect the two runs. -/

namespace Docket

open Expression (Catalogue Rules Variables)

def Record.withData (d : Table Json) (r : Record) : Record := { r with data := d }

def Pass.withData (d : Table Json) (p : Pass) : Pass := { p with record := p.record.withData d }

section Fields

variable (d : Table Json) (r : Record) (p : Pass)

@[simp] theorem Record.withData_status : (r.withData d).status = r.status := rfl

@[simp] theorem Record.withData_submitter : (r.withData d).submitter = r.submitter := rfl

@[simp] theorem Record.withData_marks : (r.withData d).marks = r.marks := rfl

@[simp] theorem Pass.withData_record : (p.withData d).record = p.record.withData d := rfl

@[simp] theorem Pass.withData_world : (p.withData d).world = p.world := rfl

@[simp] theorem Pass.withData_hops : (p.withData d).hops = p.hops := (rfl)

@[simp] theorem Pass.withData_ending : (p.withData d).ending = p.ending := (rfl)

end Fields

/-- The scene in which the host adds other variables. -/
def Scene.withHost (s : Scene) (b : Table Json) : Scene :=
  { s with moment := { s.moment with bindings := b } }

/-! ### Resolving -/

namespace Resolver

variable {r : Resolver} {vars vars' : Variables} (h : r.rules.catalogue.Alike vars vars')

include h

theorem expand_alike (spec : String) : r.expand vars' spec = r.expand vars spec := by
  unfold expand; rw [h.render]

theorem resolve_alike (spec : String) : r.resolve vars' spec = r.resolve vars spec := by
  unfold resolve; rw [expand_alike h]

end Resolver

namespace Scene

variable {s : Scene} {vars vars' : Variables} {b d : Table Json}

@[simp] theorem withHost_engine : (s.withHost b).engine = s.engine := (rfl)

@[simp] theorem withHost_graph : (s.withHost b).graph = s.graph := rfl

@[simp] theorem withHost_origin : (s.withHost b).moment.origin = s.moment.origin := rfl

/-! ### What reads no variables -/

theorem fail_withData (item : Item) (kind : FailureKind) (cause : String) (p : Pass) :
    (s.withHost b).fail item kind cause (p.withData d) = (s.fail item kind cause p).withData d :=
  rfl

theorem failAll_withData (item : Item) (misses : List Miss) (p : Pass) :
    (s.withHost b).failAll item misses (p.withData d) = (s.failAll item misses p).withData d := by
  unfold failAll
  induction misses generalizing p with
  | nil => rfl
  | cons miss rest ih => rw [List.foldl_cons, List.foldl_cons, fail_withData, ih]

theorem resolver_withData (p : Pass) (split : Bool) :
    (s.withHost b).resolver (p.withData d) split = s.resolver p split := rfl

theorem admits_withData (p : Pass) (admitted : List String) :
    (s.withHost b).admits (p.withData d) admitted = s.admits p admitted := (rfl)

theorem move_withData (item : Item) (m : Move) (p : Pass) :
    (s.withHost b).move item m (p.withData d) =
      ((s.move item m p).1.withData d, (s.move item m p).2) := by
  unfold move
  simp only [withHost_engine, Pass.withData_hops, Pass.withData_record, Record.withData_marks,
    Record.withData_status]
  split
  · rfl
  · rcases p.record.marks.resolve p.record.status m.target m.mark with ⟨marks, _ | next⟩
    · rfl
    · rfl

theorem deliver_withData (item : Item) (notice : Notice) (p : Pass) :
    (s.withHost b).deliver item notice (p.withData d) = (s.deliver item notice p).withData d := by
  unfold deliver
  simp only [withHost_engine, Pass.withData_world]
  split
  · rfl
  · cases s.engine.notifier p.world.sent notice with
    | none => rfl
    | some e => rfl

theorem performRole_withData (item : Item) (operation : RoleOperation) (mode : RoleChangeMode)
    (user : String) (nameIds : List String) (p : Pass) (role : String) :
    (s.withHost b).performRole item operation mode user nameIds (p.withData d) role =
      (s.performRole item operation mode user nameIds p role).withData d := by
  unfold performRole
  simp only [Pass.withData_world]
  cases changeRole operation user role p.world.directory with
  | error e => rfl
  | ok changed =>
      simp only
      split
      · rfl
      · rfl

theorem performRoles_foldl_withData (item : Item) (operation : RoleOperation)
    (mode : RoleChangeMode) (user : String) (nameIds roles : List String) (p : Pass) :
    roles.foldl ((s.withHost b).performRole item operation mode user nameIds) (p.withData d) =
      (roles.foldl (s.performRole item operation mode user nameIds) p).withData d := by
  induction roles generalizing p with
  | nil => rfl
  | cons role rest ih => rw [List.foldl_cons, List.foldl_cons, performRole_withData, ih]

/-! ### What an item does -/

section Alike

variable (h : s.engine.rules.catalogue.Alike vars vars')

include h

theorem holds_withHost (item : Item) : (s.withHost b).holds vars' item = s.holds vars item := by
  unfold holds
  simp only [withHost_engine, h.condition]

theorem noteCondition_withData (item : Item) (p : Pass) :
    (s.withHost b).noteCondition vars' item (p.withData d) =
      (s.noteCondition vars item p).withData d := by
  unfold noteCondition
  simp only [withHost_engine, h.condition]
  cases item.condition with
  | none => rfl
  | some source =>
      simp only
      cases s.engine.rules.condition vars source with
      | ok _ => rfl
      | error e => rfl

theorem computedRoles_withData (item : Item) (dispatch : Dispatch) (source : String) (p : Pass) :
    (s.withHost b).computedRoles vars' item dispatch source (p.withData d) =
      ((s.computedRoles vars item dispatch source p).1,
        (s.computedRoles vars item dispatch source p).2.withData d) := by
  unfold computedRoles
  simp only [withHost_engine, h.evaluate]
  cases s.engine.rules.evaluate vars source with
  | error e => rfl
  | ok value =>
      simp only
      cases dispatch.rules.find? fun r => ruleMatches s.engine.settings.coercion value r.value with
      | none => rfl
      | some rule =>
          simp only [resolver_withData, failAll_withData]
          rw [Resolver.resolve_alike h]

theorem specifiedRoles_withData (item : Item) (spec : String) (p : Pass) :
    (s.withHost b).specifiedRoles vars' item spec (p.withData d) =
      ((s.specifiedRoles vars item spec p).1,
        (s.specifiedRoles vars item spec p).2.withData d) := by
  unfold specifiedRoles
  simp only [resolver_withData, failAll_withData]
  rw [Resolver.expand_alike h]
  cases (s.resolver p false).expand vars spec with
  | error miss => rfl
  | ok values => rfl

theorem dispatchRoles_withData (item : Item) (dispatch : Dispatch) (p : Pass) :
    (s.withHost b).dispatchRoles vars' item dispatch (p.withData d) =
      ((s.dispatchRoles vars item dispatch p).1,
        (s.dispatchRoles vars item dispatch p).2.withData d) := by
  unfold dispatchRoles
  split
  · exact computedRoles_withData h item dispatch _ p
  · exact specifiedRoles_withData h item _ p
  · rfl

theorem performDispatch_withData (item : Item) (dispatch : Dispatch) (p : Pass) :
    (s.withHost b).performDispatch vars' item dispatch (p.withData d) =
      (s.performDispatch vars item dispatch p).withData d := by
  unfold performDispatch
  rw [dispatchRoles_withData h]
  simp only
  split
  · rfl
  · rfl

theorem recipients_withData (item : Item) (n : Notification) (p : Pass) :
    (s.withHost b).recipients vars' item n (p.withData d) =
      ((s.recipients vars item n p).1, (s.recipients vars item n p).2.withData d) := by
  unfold recipients
  simp only [withHost_engine, h.render, resolver_withData, failAll_withData]
  rw [Resolver.resolve_alike h]
  cases n.channel with
  | sms =>
      simp only
      cases s.engine.rules.render vars n.recipients with
      | ok v => rfl
      | error e => rfl
  | webservice => rfl

theorem performNotify_withData (item : Item) (n : Notification) (p : Pass) :
    (s.withHost b).performNotify vars' item n (p.withData d) =
      (s.performNotify vars item n p).withData d := by
  unfold performNotify
  rw [recipients_withData h]
  simp only [withHost_engine, h.renderText]
  split
  · rfl
  · cases s.engine.rules.renderText vars n.body with
    | error e => rfl
    | ok body => exact deliver_withData item _ _

theorem performRoles_withData (item : Item) (operation : RoleOperation) (change : RoleChange)
    (p : Pass) :
    (s.withHost b).performRoles vars' item operation change (p.withData d) =
      (s.performRoles vars item operation change p).withData d := by
  unfold performRoles
  simp only [Pass.withData_record, Record.withData_submitter]
  cases p.record.submitter with
  | none => rfl
  | some user =>
      simp only [resolver_withData, failAll_withData, Pass.withData_world]
      rw [Resolver.resolve_alike h]
      exact performRoles_foldl_withData item operation change.mode user _ _ _

theorem perform_withData (item : Item) (p : Pass) :
    (s.withHost b).perform vars' item (p.withData d) =
      ((s.perform vars item p).1.withData d, (s.perform vars item p).2) := by
  unfold perform
  cases item.action with
  | jump jump => rfl
  | dispatch dispatch => simp only [performDispatch_withData h]
  | notify notification => simp only [performNotify_withData h]
  | changeRole operation change => simp only [performRoles_withData h]
  | message _ => rfl
  | choice _ => rfl
  | edit _ => rfl

/-! ### Lists of items -/

theorem visit_withData (items : List Item) (p : Pass) :
    (s.withHost b).visit vars' items (p.withData d) =
      ((s.visit vars items p).1.withData d, (s.visit vars items p).2) := by
  induction items generalizing p with
  | nil => rfl
  | cons item rest ih =>
      unfold visit
      simp only [holds_withHost h, noteCondition_withData h, perform_withData h]
      split
      · split
        · rfl
        · rcases s.perform vars item (s.noteCondition vars item p) with ⟨q, _ | m⟩
          · exact ih q
          · simp only [move_withData]
            rcases s.move item m q with ⟨r, _ | _ | _⟩
            · rfl
            · exact ih r
            · rfl
      · exact ih _

theorem performGlobal_withData (items : List Item) (p : Pass) :
    (s.withHost b).performGlobal vars' items (p.withData d) =
      (s.performGlobal vars items p).withData d := by
  induction items generalizing p with
  | nil => rfl
  | cons item rest ih =>
      unfold performGlobal
      simp only [holds_withHost h, noteCondition_withData h, perform_withData h]
      split
      · exact ih p
      · split
        · rcases s.perform vars item (s.noteCondition vars item p) with ⟨q, _ | m⟩
          · exact ih q
          · simp only [move_withData]
            rcases s.move item { m with origin := .globalAction } q with ⟨r, _ | _ | _⟩
            · rfl
            · exact ih r
            · rfl
        · exact ih _

theorem firstTriggered_withData (name : String) (items : List Item) (p : Pass) :
    (s.withHost b).firstTriggered vars' name items (p.withData d) =
      ((s.firstTriggered vars name items p).1.withData d,
        (s.firstTriggered vars name items p).2) := by
  induction items generalizing p with
  | nil => rfl
  | cons item rest ih =>
      unfold firstTriggered
      simp only [holds_withHost h, noteCondition_withData h]
      cases triggeredJump? item name with
      | none => exact ih p
      | some jump =>
          simp only
          split
          · rfl
          · exact ih _

theorem surfaceItems_withData (items : List Item) (p : Pass) :
    (s.withHost b).surfaceItems vars' items (p.withData d) =
      ((s.surfaceItems vars items p).1.withData d, (s.surfaceItems vars items p).2) := by
  induction items generalizing p with
  | nil => rfl
  | cons item rest ih =>
      unfold surfaceItems
      have hshown : (s.withHost b).surfaceItem? (p.withData d) item = s.surfaceItem? p item := rfl
      simp only [hshown, holds_withHost h, noteCondition_withData h]
      cases s.surfaceItem? p item with
      | none => exact ih p
      | some shown => simp only [ih]

theorem showMessage_withData (item : Item) (m : Message) (p : Pass) :
    (s.withHost b).showMessage vars' item m (p.withData d) =
      ((s.showMessage vars item m p).1.withData d, (s.showMessage vars item m p).2) := by
  unfold showMessage
  simp only [withHost_engine, h.renderText]
  cases s.engine.rules.renderText vars m.template with
  | ok text => rfl
  | error e => rfl

theorem shownMessages_withData (items : List Item) (p : Pass) :
    (s.withHost b).shownMessages vars' items (p.withData d) =
      ((s.shownMessages vars items p).1.withData d, (s.shownMessages vars items p).2) := by
  induction items generalizing p with
  | nil => rfl
  | cons item rest ih =>
      unfold shownMessages
      cases item.action with
      | message m =>
          simp only [admits_withData, holds_withHost h, noteCondition_withData h,
            showMessage_withData h, ih]
          split
          · split
            · rfl
            · rfl
          · rfl
      | jump _ => exact ih p
      | dispatch _ => exact ih p
      | notify _ => exact ih p
      | changeRole _ _ => exact ih p
      | choice _ => exact ih p
      | edit _ => exact ih p

end Alike

end Scene
end Docket
