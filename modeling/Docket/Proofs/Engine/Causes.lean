import Docket.Engine.View
import Docket.Proofs.Engine.Operation
import Docket.Proofs.Failure
import Docket.Proofs.Graph.Texts

/-! # The causes of failures

An operation never stops because an item fails: it records the failure and goes on.  This module
accounts for every failure that is recorded.  A `Cause` is what lies behind the kind and the wording
of a failure, and `Scene.Arises` says when an item gives rise to it: a text of the item that does
not evaluate, a value of such a text that means nobody, a directory or a notifier that refuses.

* `Scene.Records` says that between two passes only such failures were recorded, all of them by items
  of the workflow.  For every function `X` of a pass, `X_records` says so of `X`.

The failure that ends a pass at the limit is not among them: it is the account of a whole operation
that adds it. -/

namespace Docket

open Expression (Rules Variables)

/-! ### Causes -/

/-- What makes an item fail. -/
inductive Cause where
  | condition (source : String) (error : Expression.Error)
  | computation (source : String) (error : Expression.Error)
  | text (error : Expression.Error)
  | miss (miss : Miss)
  | directory (error : Directory.Error)
  | notifier (error : NotifyError)
  | limit (maxHops : ℕ)

namespace Cause

def kind : Cause → FailureKind
  | condition .. => .conditionFailed
  | computation .. => .dispatchFailed
  | text _ => .templateFailed
  | miss m => Scene.missKind m
  | directory _ => .directoryFailed
  | notifier _ => .notifyFailed
  | limit _ => .tooManyJumps

def message : Cause → String
  | condition source e => "condition " ++ Text.quoted source ++ " failed: " ++ e.message
  | computation source e => "cannot compute " ++ Text.quoted source ++ ": " ++ e.message
  | text e => e.message
  | miss m => m.message
  | directory e => e.message
  | notifier e => e.message
  | limit maxHops => "too many jumps (limit " ++ toString maxHops ++ ")"

/-- The error of the expression or the template that did not evaluate. -/
def error? : Cause → Option Expression.Error
  | condition _ e | computation _ e | text e | miss (.unreadable _ e) => some e
  | _ => none

end Cause

/-- A failure before it is put into words. -/
structure Failure where
  site : FailureSite
  cause : Cause

/-- The identifier under which a failure is counted. -/
def Failure.id (f : Failure) : String := techId f.site f.cause.kind f.cause.message

namespace FailureLog

variable {log : FailureLog} {now : Instant} {fs : List Failure}

def recordAll (now : Instant) (fs : List Failure) (log : FailureLog) : FailureLog :=
  fs.foldl (fun log f => log.record now f.site f.cause.kind f.cause.message) log

theorem recordAll_append (fs gs : List Failure) :
    log.recordAll now (fs ++ gs) = (log.recordAll now fs).recordAll now gs :=
  List.foldl_append

theorem gains_recordAll_of_ne {kind : FailureKind} (h : ∀ f ∈ fs, f.cause.kind ≠ kind) :
    Gains kind [] log (log.recordAll now fs) := by
  induction fs generalizing log with
  | nil => exact Gains.refl kind log
  | cons f rest ih =>
      obtain ⟨hf, hrest⟩ := List.forall_mem_cons.mp h
      exact (gains_record_of_ne hf log now f.site f.cause.message).trans (ih hrest)

theorem total_recordAll (log : FailureLog) (now : Instant) (fs : List Failure) :
    (log.recordAll now fs).total = log.total + fs.length := by
  induction fs generalizing log with
  | nil => rfl
  | cons f rest ih =>
      show ((log.record now f.site f.cause.kind f.cause.message).recordAll now rest).total = _
      rw [ih, total_record, List.length_cons, Nat.add_assoc, Nat.add_comm 1]

theorem includes_recordAll (log : FailureLog) (now : Instant) (fs : List Failure) :
    Includes log (log.recordAll now fs) := by
  induction fs generalizing log with
  | nil => exact Includes.refl log
  | cons f rest ih =>
      exact (log.includes_record now f.site f.cause.kind f.cause.message).trans (ih _)

end FailureLog

namespace Scene

variable {s : Scene} {vars : Variables} {item : Item} {p q r : Pass}

/-- What an item can make fail, with the texts and the values that do. -/
inductive Arises (s : Scene) (item : Item) : Cause → Prop
  | condition {vars : Variables} {source : String} {e : Expression.Error} :
      source ∈ item.expressions → s.engine.rules.condition vars source = .error e →
      Arises s item (.condition source e)
  | computation {vars : Variables} {source : String} {e : Expression.Error} :
      source ∈ item.expressions → s.engine.rules.evaluate vars source = .error e →
      Arises s item (.computation source e)
  | value {vars : Variables} {text : String} {e : Expression.Error} :
      text ∈ item.texts → s.engine.rules.render vars text = .error e → Arises s item (.text e)
  | text {vars : Variables} {text : String} {e : Expression.Error} :
      text ∈ item.texts → s.engine.rules.renderText vars text = .error e → Arises s item (.text e)
  | unreadable {vars : Variables} {text : String} {e : Expression.Error} :
      text ∈ item.texts → s.engine.rules.render vars text = .error e →
      Arises s item (.miss (.unreadable text e))
  | role {text : String} (value : String) : text ∈ item.texts →
      Arises s item (.miss (.role value (Resolver.templateOf text)))
  | user {text : String} (value : String) : text ∈ item.texts →
      Arises s item (.miss (.user value (Resolver.templateOf text)))
  | directory {operation : RoleOperation} {change : RoleChange} (e : Directory.Error) :
      item.action = .changeRole operation change → Arises s item (.directory e)
  | notifier {n : Notification} (e : NotifyError) : item.action = .notify n →
      Arises s item (.notifier e)

theorem Arises.kind_ne {cause : Cause} (h : s.Arises item cause) : cause.kind ≠ .tooManyJumps := by
  cases h <;> simp [Cause.kind, missKind]

/-- An item of the workflow is at fault. -/
def Fault (s : Scene) (f : Failure) : Prop :=
  ∃ item ∈ s.graph.workflow.items, f.site.actionId = some item.id ∧ s.Arises item f.cause

/-! ### What is recorded between two passes -/

/-- Between `p` and `q` the failures `fs` were recorded, in this order, and no others. -/
structure Notes (s : Scene) (p q : Pass) (fs : List Failure) : Prop where
  log : q.world.log = p.world.log.recordAll s.moment.now fs
  failures : q.failures = p.failures + fs.length

theorem Notes.trans {fs gs : List Failure} (h : s.Notes p q fs) (h' : s.Notes q r gs) :
    s.Notes p r (fs ++ gs) where
  log := by rw [h'.log, h.log, FailureLog.recordAll_append]
  failures := by rw [h'.failures, h.failures, List.length_append, Nat.add_assoc]

/-- Between `p` and `q` only failures of items of the workflow were recorded. -/
def Records (s : Scene) (p q : Pass) : Prop := ∃ fs, s.Notes p q fs ∧ ∀ f ∈ fs, s.Fault f

namespace Records

theorem quiet (hl : q.world.log = p.world.log) (hf : q.failures = p.failures) : s.Records p q :=
  ⟨[], ⟨hl, hf⟩, by simp⟩

theorem refl (p : Pass) : s.Records p p := quiet rfl rfl

theorem trans (h : s.Records p q) (h' : s.Records q r) : s.Records p r := by
  obtain ⟨fs, hn, hfs⟩ := h
  obtain ⟨gs, hn', hgs⟩ := h'
  exact ⟨fs ++ gs, hn.trans hn', List.forall_mem_append.mpr ⟨hfs, hgs⟩⟩

theorem foldl {β : Type} {f : Pass → β → Pass} {l : List β}
    (h : ∀ b ∈ l, ∀ p : Pass, s.Records p (f p b)) (p : Pass) : s.Records p (l.foldl f p) := by
  induction l generalizing p with
  | nil => exact refl p
  | cons b rest ih =>
      obtain ⟨hb, hrest⟩ := List.forall_mem_cons.mp h
      exact (hb p).trans (ih hrest (f p b))

end Records

/-! ### What items do -/

section Items

variable (hi : item ∈ s.graph.workflow.items)

include hi

theorem fail_records {cause : Cause} (h : s.Arises item cause) (p : Pass) :
    s.Records p (s.fail item cause.kind cause.message p) := by
  refine ⟨[⟨s.site p item, cause⟩], ⟨rfl, rfl⟩, ?_⟩
  intro f hf
  obtain rfl := List.mem_singleton.mp hf
  exact ⟨item, hi, rfl, h⟩

theorem failAll_records {misses : List Miss} (h : ∀ miss ∈ misses, s.Arises item (.miss miss))
    (p : Pass) : s.Records p (s.failAll item misses p) :=
  Records.foldl (fun miss hm => fail_records hi (h miss hm)) p

theorem noteCondition_records (vars : Variables) (p : Pass) :
    s.Records p (s.noteCondition vars item p) := by
  unfold noteCondition
  cases hc : item.condition with
  | none => exact Records.refl p
  | some source =>
      simp only
      cases he : s.engine.rules.condition vars source with
      | ok b => exact Records.refl p
      | error e =>
          exact fail_records hi (.condition (Item.condition_mem_expressions hc) he) p

end Items

/-! ### Resolving -/

theorem expand_arises {split : Bool} {text : String} (ht : text ∈ item.texts) {miss : Miss}
    (h : (s.resolver p split).expand vars text = .error miss) : s.Arises item (.miss miss) := by
  unfold Resolver.expand at h
  split at h
  · cases hr : (s.resolver p split).rules.render vars text with
    | ok v => rw [hr] at h; cases h
    | error e =>
        rw [hr] at h
        cases h
        exact .unreadable ht hr
  · cases h

theorem resolveOne_arises {res : Resolver} {text value : String} (ht : text ∈ item.texts)
    {miss : Miss} (h : res.resolveOne (Resolver.templateOf text) value = .error miss) :
    s.Arises item (.miss miss) := by
  unfold Resolver.resolveOne at h
  split at h
  · cases h
  · split at h
    · simp only at h
      split at h
      · cases h
      · cases h
        exact .user value ht
    · split at h
      · cases h
      · split at h
        · cases h
        · cases h
          exact .role value ht

theorem mem_misses {values : List String} {f : String → Except Miss (List String)} {miss : Miss}
    (h : miss ∈ (values.map f).filterMap fun r => match r with | .ok _ => none | .error m => some m) :
    ∃ value, f value = .error miss := by
  obtain ⟨r, hr, hm⟩ := List.mem_filterMap.mp h
  obtain ⟨value, _, rfl⟩ := List.mem_map.mp hr
  cases hv : f value with
  | ok roles => rw [hv] at hm; cases hm
  | error m =>
      rw [hv] at hm
      cases hm
      exact ⟨value, hv⟩

theorem resolve_arises {split : Bool} {text : String} (ht : text ∈ item.texts) :
    ∀ miss ∈ ((s.resolver p split).resolve vars text).2, s.Arises item (.miss miss) := by
  intro miss hm
  unfold Resolver.resolve at hm
  cases he : (s.resolver p split).expand vars text with
  | error miss' =>
      rw [he] at hm
      obtain rfl := List.mem_singleton.mp hm
      exact expand_arises ht he
  | ok values =>
      rw [he] at hm
      obtain ⟨value, hv⟩ := mem_misses hm
      exact resolveOne_arises ht hv

theorem roleOrUser_arises {res : Resolver} {text value : String} (ht : text ∈ item.texts)
    {miss : Miss} (h : roleOrUser res (Resolver.templateOf text) value = .error miss) :
    s.Arises item (.miss miss) := by
  unfold roleOrUser at h
  split at h
  · next v t ho =>
    split at h
    · cases h
    · cases h
      exact resolveOne_arises ht ho
  · exact resolveOne_arises ht h

/-! ### Actions -/

section Actions

variable (hi : item ∈ s.graph.workflow.items)

include hi

theorem computedRoles_records {dispatch : Dispatch} (ha : item.action = .dispatch dispatch)
    {source : String} (hs : dispatch.source = some source) (vars : Variables) (p : Pass) :
    s.Records p (s.computedRoles vars item dispatch source p).2 := by
  unfold computedRoles
  cases he : s.engine.rules.evaluate vars source with
  | error e =>
      exact fail_records hi (.computation (Item.source_mem_expressions ha hs) he) p
  | ok value =>
      simp only
      split
      · exact Records.refl p
      · next rule hfind =>
        have ht : rule.role ∈ item.texts := by
          unfold Item.texts
          rw [ha]
          exact List.mem_append_right _ (List.mem_map_of_mem (List.mem_of_find?_eq_some hfind))
        exact failAll_records hi (resolve_arises ht) p

theorem specifiedRoles_records {spec : String} (ht : spec ∈ item.texts) (vars : Variables)
    (p : Pass) : s.Records p (s.specifiedRoles vars item spec p).2 := by
  unfold specifiedRoles
  simp only
  cases he : (s.resolver p false).expand vars spec with
  | error miss =>
      refine failAll_records hi (fun m hm => ?_) p
      obtain rfl := List.mem_singleton.mp hm
      exact expand_arises ht he
  | ok values =>
      refine failAll_records hi (fun miss hm => ?_) p
      obtain ⟨value, hv⟩ := mem_misses hm
      exact roleOrUser_arises ht hv

theorem performDispatch_records {dispatch : Dispatch} (ha : item.action = .dispatch dispatch)
    (vars : Variables) (p : Pass) : s.Records p (s.performDispatch vars item dispatch p) := by
  have h : s.Records p (s.dispatchRoles vars item dispatch p).2 := by
    unfold dispatchRoles
    split
    · next source _ hs => exact computedRoles_records hi ha hs vars p
    · next spec _ hspec =>
      have ht : spec ∈ item.texts := by
        unfold Item.texts
        rw [ha]
        exact List.mem_append_left _ (Option.mem_toList.mpr hspec)
      exact specifiedRoles_records hi ht vars p
    · exact Records.refl p
  unfold performDispatch
  simp only
  split
  · exact h
  · exact h.trans (Records.quiet rfl rfl)

theorem recipients_records {n : Notification} (ha : item.action = .notify n) (vars : Variables)
    (p : Pass) : s.Records p (s.recipients vars item n p).2 := by
  have ht : n.recipients ∈ item.texts := by simp [Item.texts, ha]
  unfold recipients
  split
  · cases he : s.engine.rules.render vars n.recipients with
    | ok v => exact Records.refl p
    | error e => exact fail_records hi (.value ht he) p
  · exact failAll_records hi (resolve_arises ht) p

theorem deliver_records {n : Notification} (ha : item.action = .notify n) (notice : Notice)
    (p : Pass) : s.Records p (s.deliver item notice p) := by
  unfold deliver
  split
  · exact Records.quiet rfl rfl
  · simp only
    split
    · next e _ =>
      have hsent : s.Records p
          { p with world := { p.world with sent := p.world.sent ++ [notice] } } :=
        Records.quiet rfl rfl
      exact hsent.trans (fail_records hi (.notifier e ha) _)
    · exact Records.quiet rfl rfl

theorem performNotify_records {n : Notification} (ha : item.action = .notify n) (vars : Variables)
    (p : Pass) : s.Records p (s.performNotify vars item n p) := by
  have h := recipients_records hi ha vars p
  have ht : n.body ∈ item.texts := by simp [Item.texts, ha]
  unfold performNotify
  simp only
  split
  · exact h
  · cases he : s.engine.rules.renderText vars n.body with
    | error e => exact h.trans (fail_records hi (.text ht he) _)
    | ok body => exact h.trans (deliver_records hi ha _ _)

theorem performRole_records {operation : RoleOperation} {change : RoleChange}
    (ha : item.action = .changeRole operation change) (user : String) (nameIds : List String)
    (role : String) (p : Pass) :
    s.Records p (s.performRole item operation change.mode user nameIds p role) := by
  unfold performRole
  split
  · next e _ => exact fail_records hi (.directory e ha) p
  · simp only
    split
    · exact Records.quiet rfl rfl
    · exact Records.quiet rfl rfl

theorem performRoles_records {operation : RoleOperation} {change : RoleChange}
    (ha : item.action = .changeRole operation change) (vars : Variables) (p : Pass) :
    s.Records p (s.performRoles vars item operation change p) := by
  have ht : change.spec ∈ item.texts := by simp [Item.texts, ha]
  unfold performRoles
  split
  · exact Records.refl p
  · next user _ =>
    have hmisses : s.Records p
        (s.failAll item ((s.resolver p false).resolve vars change.spec).2 p) :=
      failAll_records hi (resolve_arises ht) p
    exact hmisses.trans (Records.foldl (fun role _ => performRole_records hi ha user _ role) _)

/-- **An item of the workflow records only failures that it is at fault for.** -/
theorem perform_records (vars : Variables) (p : Pass) :
    s.Records p (s.perform vars item p).1 := by
  unfold perform
  cases ha : item.action with
  | jump _ => exact Records.refl p
  | dispatch _ => exact performDispatch_records hi ha vars p
  | notify _ => exact performNotify_records hi ha vars p
  | changeRole _ _ => exact performRoles_records hi ha vars p
  | message _ => exact Records.refl p
  | choice _ => exact Records.refl p
  | edit _ => exact Records.refl p

theorem showMessage_records {m : Message} (ha : item.action = .message m) (vars : Variables)
    (p : Pass) : s.Records p (s.showMessage vars item m p).1 := by
  have ht : m.template ∈ item.texts := by simp [Item.texts, ha]
  unfold showMessage
  cases he : s.engine.rules.renderText vars m.template with
  | ok text => exact Records.refl p
  | error e => exact fail_records hi (.text ht he) p

end Actions

/-! ### Lists of items -/

section Lists

variable {items : List Item} (hi : ∀ item ∈ items, item ∈ s.graph.workflow.items)

include hi

theorem firstTriggered_records (vars : Variables) (name : String) (p : Pass) :
    s.Records p (s.firstTriggered vars name items p).1 := by
  induction items generalizing p with
  | nil => exact Records.refl p
  | cons item rest ih =>
      obtain ⟨hitem, hrest⟩ := List.forall_mem_cons.mp hi
      have hn := noteCondition_records hitem vars p
      unfold firstTriggered
      split
      · exact ih hrest p
      · simp only
        split
        · exact hn
        · exact hn.trans (ih hrest _)

theorem surfaceItems_records (vars : Variables) (p : Pass) :
    s.Records p (s.surfaceItems vars items p).1 := by
  induction items generalizing p with
  | nil => exact Records.refl p
  | cons item rest ih =>
      obtain ⟨hitem, hrest⟩ := List.forall_mem_cons.mp hi
      unfold surfaceItems
      split
      · exact ih hrest p
      · exact (noteCondition_records hitem vars p).trans (ih hrest _)

theorem shownMessages_records (vars : Variables) (p : Pass) :
    s.Records p (s.shownMessages vars items p).1 := by
  induction items generalizing p with
  | nil => exact Records.refl p
  | cons item rest ih =>
      obtain ⟨hitem, hrest⟩ := List.forall_mem_cons.mp hi
      have hn := noteCondition_records hitem vars p
      unfold shownMessages
      split
      · next m ha =>
        split
        · simp only
          split
          · exact (hn.trans (showMessage_records hitem ha vars _)).trans (ih hrest _)
          · exact hn.trans (ih hrest _)
        · exact ih hrest p
      · exact ih hrest p

end Lists

end Scene
end Docket
