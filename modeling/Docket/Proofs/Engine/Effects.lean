import Docket.Engine.View
import Docket.Proofs.Engine.Course
import Docket.Proofs.Engine.Delivery

/-! # What an item leaves behind

What an item does by itself is seen outside of the record in three ways: a failure in the log, a
notice that is sent, and a job that is left for later.  Each of these effects tells where it comes
from, and that is the status of the record at that moment and the item.

* `Scene.Emits` is what an item does as a list of single steps.  Each step is made by the engine's own
  means on the pass as the steps before it have left it.
* For every function `X` of an item, `X_acts` says that it does nothing but such steps.
* `Emits.comesFrom` and `Emits.gives` are the two inductions over the steps: where the effects come
  from, and that they are all that is new in the world and in the jobs. -/

namespace Docket

open Expression (Variables)

/-! ### Effects -/

/-- Something that an item leaves behind. -/
inductive Effect where
  | failure (incident : Incident)
  | notice (notice : Notice)
  | job (job : AfterJob)
deriving DecidableEq, Repr

namespace Effect

def incident? : Effect → Option Incident
  | failure i => some i
  | _ => none

def notice? : Effect → Option Notice
  | notice n => some n
  | _ => none

def job? : Effect → Option AfterJob
  | job j => some j
  | _ => none

end Effect

/-- What goes with a notice names a site. -/
structure Notice.At (notice : Notice) (site : FailureSite) : Prop where
  workflowId : notice.metadata.field? "workflow_id" = some (.str site.workflowId)
  recordId : notice.metadata.field? "record_id" = site.recordId.map fun id => .str id.write
  statusId : notice.metadata.field? "status_id" = site.statusId.map .str
  actionId : notice.metadata.field? "action_id" = site.actionId.map .str

/-- An effect comes from a site.  A job that sends a notice says so twice. -/
def Effect.At : Effect → FailureSite → Prop
  | failure i, site => i.site = site
  | notice n, site => n.At site
  | job j, site => j.site = site ∧ ∀ n, j.notice? = some n → n.At site

/-- Between `p` and `q` the effects have come into the world and among the jobs, in their order, and
nothing else has. -/
structure Pass.Gives (es : List Effect) (p q : Pass) : Prop where
  log : q.world.log =
    (es.filterMap Effect.incident?).foldl (fun log i => log.next (.record i)) p.world.log
  failures : q.failures = p.failures + (es.filterMap Effect.incident?).length
  sent : q.world.sent = p.world.sent ++ es.filterMap Effect.notice?
  jobs : q.jobs = p.jobs ++ es.filterMap Effect.job?

/-- `q` differs from `p` at most in the directory and in the roles of the functions. -/
structure Pass.SameButRoles (p q : Pass) : Prop extends p.SameCourse q where
  log : q.world.log = p.world.log
  failures : q.failures = p.failures
  sent : q.world.sent = p.world.sent
  jobs : q.jobs = p.jobs

namespace Pass

variable {p q r : Pass} {es fs : List Effect}

theorem SameButRoles.refl (p : Pass) : p.SameButRoles p := ⟨.refl p, rfl, rfl, rfl, rfl⟩

theorem Gives.of_same (hl : q.world.log = p.world.log) (hf : q.failures = p.failures)
    (hs : q.world.sent = p.world.sent) (hj : q.jobs = p.jobs) : Gives [] p q :=
  ⟨hl, hf, by simpa using hs, by simpa using hj⟩

theorem Gives.trans (h : Gives es p q) (h' : Gives fs q r) : Gives (es ++ fs) p r where
  log := by rw [h'.log, h.log, List.filterMap_append, List.foldl_append]
  failures := by
    rw [h'.failures, h.failures, List.filterMap_append, List.length_append, Nat.add_assoc]
  sent := by rw [h'.sent, h.sent, List.filterMap_append, List.append_assoc]
  jobs := by rw [h'.jobs, h.jobs, List.filterMap_append, List.append_assoc]

end Pass

namespace Scene

/-! ### Steps -/

/-- From `p` to `q` an item leaves effects behind, in this order. -/
inductive Emits (s : Scene) (item : Item) : Pass → List Effect → Pass → Prop
  | silent {p q : Pass} : p.SameButRoles q → Emits s item p [] q
  | fail (p : Pass) (kind : FailureKind) (cause : String) :
      Emits s item p [.failure ⟨s.moment.now, s.site p item, kind, cause⟩] (s.fail item kind cause p)
  | send (p : Pass) {n : Notification} {notice : Notice} : notice.metadata = metadata p item n →
      Emits s item p [.notice notice]
        { p with world := { p.world with sent := p.world.sent ++ [notice] } }
  | leave (p : Pass) {job : AfterJob} : job.site = s.site p item →
      (∀ notice, job.notice? = some notice → ∃ n, notice.metadata = metadata p item n) →
      Emits s item p [.job job] { p with jobs := p.jobs ++ [job] }
  | trans {p q r : Pass} {es fs : List Effect} : Emits s item p es q → Emits s item q fs r →
      Emits s item p (es ++ fs) r

/-- From `p` to `q` an item does nothing but leave effects behind. -/
def Acts (s : Scene) (item : Item) (p q : Pass) : Prop := ∃ es, s.Emits item p es q

variable {s : Scene} {item : Item} {p q r : Pass} {es : List Effect}

theorem metadata_at {n : Notification} {notice : Notice}
    (h : notice.metadata = metadata p item n) (hw : p.record.workflowId = s.graph.id) :
    notice.At (s.site p item) := by
  unfold metadata Json.object at h
  constructor <;> rw [h] <;>
    simp [Json.field?, Json.Fields.ofList, Json.get?_insertField, site, hw]

namespace Emits

theorem sameCourse (h : s.Emits item p es q) : p.SameCourse q := by
  induction h with
  | silent h => exact h.toSameCourse
  | fail p kind cause => exact (s.fail_sameRecord item p kind cause).sameCourse
  | send | leave => exact ⟨rfl, rfl, rfl⟩
  | trans _ _ ih ih' => exact ih.trans ih'

/-- **The effects are all that is new.** -/
theorem gives (h : s.Emits item p es q) : Pass.Gives es p q := by
  induction h with
  | silent h => exact .of_same h.log h.failures h.sent h.jobs
  | fail => exact ⟨rfl, rfl, (List.append_nil _).symm, (List.append_nil _).symm⟩
  | send => exact ⟨rfl, rfl, rfl, (List.append_nil _).symm⟩
  | leave => exact ⟨rfl, rfl, (List.append_nil _).symm, rfl⟩
  | trans _ _ ih ih' => exact ih.trans ih'

theorem site_eq (h : s.Emits item p es q) : s.site q item = s.site p item := by
  unfold site
  rw [h.sameCourse.record]

/-- **The effects come from the status of the record and from the item.** -/
theorem comesFrom (h : s.Emits item p es q) (hw : p.record.workflowId = s.graph.id) :
    ∀ e ∈ es, e.At (s.site p item) := by
  induction h with
  | silent => simp
  | fail => exact List.forall_mem_singleton.mpr rfl
  | send p hmetadata => exact List.forall_mem_singleton.mpr (metadata_at hmetadata hw)
  | leave p hsite hnotice =>
      refine List.forall_mem_singleton.mpr ⟨hsite, fun notice hn => ?_⟩
      obtain ⟨n, hmetadata⟩ := hnotice notice hn
      exact metadata_at hmetadata hw
  | trans h _ ih ih' =>
      have hsecond := ih' (h.sameCourse.workflowId.trans hw)
      rw [h.site_eq] at hsecond
      exact List.forall_mem_append.mpr ⟨ih hw, hsecond⟩

end Emits

namespace Acts

theorem silent (h : p.SameButRoles q) : s.Acts item p q := ⟨[], .silent h⟩

theorem refl (p : Pass) : s.Acts item p p := silent (.refl p)

theorem fail (p : Pass) (kind : FailureKind) (cause : String) :
    s.Acts item p (s.fail item kind cause p) := ⟨_, .fail p kind cause⟩

theorem trans (h : s.Acts item p q) (h' : s.Acts item q r) : s.Acts item p r := by
  obtain ⟨es, h⟩ := h
  obtain ⟨fs, h'⟩ := h'
  exact ⟨es ++ fs, h.trans h'⟩

theorem foldl {β : Type} {f : Pass → β → Pass} (h : ∀ (p : Pass) (b : β), s.Acts item p (f p b))
    (l : List β) (p : Pass) : s.Acts item p (l.foldl f p) := by
  induction l generalizing p with
  | nil => exact refl p
  | cons b rest ih => exact (h p b).trans (ih (f p b))

end Acts

/-! ### What items do -/

variable (s item) (vars : Variables) (p)

theorem failAll_acts (misses : List Miss) : s.Acts item p (s.failAll item misses p) :=
  .foldl (fun q miss => .fail q (missKind miss) miss.message) misses p

theorem noteCondition_acts : s.Acts item p (s.noteCondition vars item p) := by
  unfold noteCondition
  split
  · split
    · exact .refl p
    · exact .fail p _ _
  · exact .refl p

theorem dispatchRoles_acts (dispatch : Dispatch) :
    s.Acts item p (s.dispatchRoles vars item dispatch p).2 := by
  unfold dispatchRoles
  split
  · unfold computedRoles
    split
    · exact .fail p _ _
    · split
      · exact .refl p
      · exact s.failAll_acts item p _
  · unfold specifiedRoles
    simp only
    split
    · exact s.failAll_acts item p _
    · exact s.failAll_acts item p _
  · exact .refl p

theorem performDispatch_acts (dispatch : Dispatch) :
    s.Acts item p (s.performDispatch vars item dispatch p) := by
  have h := s.dispatchRoles_acts item p vars dispatch
  unfold performDispatch
  simp only
  split
  · exact h
  · exact h.trans (.silent ⟨⟨rfl, rfl, rfl⟩, rfl, rfl, rfl, rfl⟩)

theorem recipients_acts (n : Notification) : s.Acts item p (s.recipients vars item n p).2 := by
  unfold recipients
  split
  · split
    · exact .refl p
    · exact .fail p _ _
  · exact s.failAll_acts item p _

theorem deliver_acts {n : Notification} {notice : Notice}
    (h : notice.metadata = metadata p item n) : s.Acts item p (s.deliver item notice p) := by
  unfold deliver
  split
  · refine ⟨_, .leave p rfl ?_⟩
    rintro _ ⟨⟩
    exact ⟨n, h⟩
  · have hsend : s.Acts item p
        { p with world := { p.world with sent := p.world.sent ++ [notice] } } := ⟨_, .send p h⟩
    simp only
    split
    · exact hsend.trans (.fail _ _ _)
    · exact hsend

theorem performNotify_acts (n : Notification) : s.Acts item p (s.performNotify vars item n p) := by
  have h := s.recipients_acts item p vars n
  unfold performNotify
  simp only
  split
  · exact h
  · split
    · exact h.trans (.fail _ _ _)
    · exact h.trans (s.deliver_acts item _ rfl)

theorem performRole_acts (operation : RoleOperation) (mode : RoleChangeMode) (user : String)
    (nameIds : List String) (role : String) :
    s.Acts item p (s.performRole item operation mode user nameIds p role) := by
  unfold performRole
  split
  · exact .fail p _ _
  · next directory _ =>
    have hchange : s.Acts item p { p with world := { p.world with directory } } :=
      .silent ⟨⟨rfl, rfl, rfl⟩, rfl, rfl, rfl, rfl⟩
    simp only
    split
    · exact hchange.trans ⟨_, .leave _ rfl nofun⟩
    · exact hchange

theorem performRoles_acts (operation : RoleOperation) (change : RoleChange) :
    s.Acts item p (s.performRoles vars item operation change p) := by
  unfold performRoles
  split
  · exact .refl p
  · exact (s.failAll_acts item p _).trans
      (.foldl (fun p role => s.performRole_acts item p _ _ _ _ role) _ _)

/-- **What an item does by itself is to leave effects behind.** -/
theorem perform_acts : s.Acts item p (s.perform vars item p).1 := by
  unfold perform
  cases item.action with
  | dispatch dispatch => exact s.performDispatch_acts item p vars dispatch
  | notify n => exact s.performNotify_acts item p vars n
  | changeRole operation change => exact s.performRoles_acts item p vars operation change
  | jump _ | message _ | choice _ | edit _ => exact .refl p

theorem showMessage_acts (m : Message) : s.Acts item p (s.showMessage vars item m p).1 := by
  unfold showMessage
  split
  · exact .refl p
  · exact .fail p _ _

end Scene
end Docket
