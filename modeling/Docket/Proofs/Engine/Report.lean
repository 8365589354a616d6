import Docket.Engine.View
import Docket.Proofs.Engine.WellFormed

/-! # What the state of a pass reports

A pass ends suspended, waiting or in an endpoint, and says so.  It found that out with the variables
from the beginning of its last visit, while a later look at the record takes the variables anew.
Between the two nothing of the record changes but the roles of the functions, and those only by a
dispatch of the same status.

* `Scene.visit_open` is the step: a visit that does not move the record ends at the first item that
  a person may fire and whose condition holds, or finds none.
* `Scene.Enters` leads from the opening of a pass to its visits, and `Scene.drive_rests` says what
  the last of them found.
* `Scene.operate_reports` is the statement about operations.  `Scene.operate_report_outdated` is a
  status where a dispatch opens an item behind the back of the pass. -/

namespace Docket

open Expression (Variables)

namespace Scene

/-- The first of the items that a person may fire and whose condition holds. -/
def openItem? (s : Scene) (vars : Variables) (items : List Item) : Option Item :=
  items.find? fun item => item.isInteractive && s.holds vars item

/-- The state says which of the items is open, if any. -/
structure Reports (s : Scene) (vars : Variables) (items : List Item) (state : PassState) : Prop where
  suspended_iff : ∀ id, state = .suspended id ↔ (s.openItem? vars items).map Item.id = some id
  resting_iff : state = .waiting ∨ state = .terminal ↔ s.openItem? vars items = none

variable {s : Scene} {vars : Variables} {items : List Item} {p q r : Pass}

theorem reports_suspended {item : Item} (h : s.openItem? vars items = some item) :
    s.Reports vars items (.suspended item.id) := by
  constructor
  · intro id
    rw [h, Option.map_some, Option.some.injEq, PassState.suspended.injEq]
  · rw [h]
    simp

theorem reports_settled (status : Status) (h : s.openItem? vars items = none) :
    s.Reports vars items (if status.isEndpoint then .terminal else .waiting) := by
  constructor
  · intro id
    rw [h]
    split <;> simp
  · rw [h]
    split <;> simp

/-! ### Visits -/

/-- **A visit that does not move the record ends at the first open item.** -/
theorem visit_open {v : Visit} (h : s.visit vars items p = (q, v)) :
    (v = .through → s.openItem? vars items = none) ∧
    (v = .halted → q.ending = some .hopLimit ∨
      ∃ item, s.openItem? vars items = some item ∧ q.ending = some (.suspended item.id)) := by
  unfold openItem? at *
  induction items generalizing p with
  | nil => cases h; exact ⟨fun _ => rfl, fun h => by cases h⟩
  | cons item rest ih =>
      have hmet := s.visit_met vars item rest p
      rw [h] at hmet
      rw [List.find?_cons]
      generalize hr : (q, v) = r at hmet
      cases hmet with
      | closed hh => rw [hh, Bool.and_false]; exact ih hr.symm
      | suspended hh hint =>
          cases hr
          rw [hh, hint]
          exact ⟨fun h => (by cases h), fun _ => Or.inr ⟨item, rfl, rfl⟩⟩
      | passed _ hint => rw [hint, Bool.false_and]; exact ih hr.symm
      | moved => cases hr; exact ⟨fun h => (by cases h), fun h => (by cases h)⟩
      | limited => cases hr; exact ⟨fun h => (by cases h), fun _ => Or.inl rfl⟩

/-- A visit that does not move the record changes nothing of it but the roles of the functions, and
not even those without a dispatch. -/
theorem visit_record {v : Visit} (h : s.visit vars items p = (q, v)) (hv : v ≠ .moved) :
    q.record = { p.record with buckets := q.record.buckets } ∧
      ((∀ item ∈ items, item.isDispatch = false) → q.record = p.record) := by
  induction items generalizing p with
  | nil => cases h; exact ⟨rfl, fun _ => rfl⟩
  | cons item rest ih =>
      have hmet := s.visit_met vars item rest p
      rw [h] at hmet
      generalize hr : (q, v) = r at hmet
      cases hmet with
      | closed =>
          obtain ⟨hb, hd⟩ := ih hr.symm
          rw [(s.noteCondition_sameRecord vars item p).record] at hb hd
          exact ⟨hb, fun hall => hd (List.forall_mem_cons.mp hall).2⟩
      | suspended => cases hr; exact ⟨rfl, fun _ => rfl⟩
      | @passed q' m _ _ hperf =>
          obtain ⟨hb, hd⟩ := ih hr.symm
          have hcourse := s.perform_sameCourse vars item p
          have hout := s.perform_sameRecord vars item p
          rw [hperf] at hcourse hout
          refine ⟨by rw [hb, hcourse.record], fun hall => ?_⟩
          obtain ⟨hitem, hrest⟩ := List.forall_mem_cons.mp hall
          rw [hd hrest, (hout hitem).record]
      | moved => cases hr; exact absurd rfl hv
      | limited => cases hr; exact ⟨rfl, fun _ => rfl⟩

/-! ### Passes -/

/-- A pass that visits its status comes to visit the status of another. -/
inductive Enters (s : Scene) : Pass → Pass → Prop
  | here (p : Pass) : Enters s p p
  | onward {p q r : Pass} {status : Status} : s.graph.status? p.record.status = some status →
      s.visit (s.bindings p) status.items p = (q, .moved) → Enters s q r → Enters s p r

/-- A visit that does not move the record is the last one. -/
theorem Enters.unique {last last' : Pass} {status status' : Status} (h : s.Enters p last)
    (h' : s.Enters p last') (hs : s.graph.status? last.record.status = some status)
    (hs' : s.graph.status? last'.record.status = some status')
    (hv : (s.visit (s.bindings last) status.items last).2 ≠ .moved)
    (hv' : (s.visit (s.bindings last') status'.items last').2 ≠ .moved) : last' = last := by
  induction h with
  | here p =>
      cases h' with
      | here => rfl
      | onward hp hmoved =>
          rw [hs] at hp
          cases hp
          exact absurd (congrArg Prod.snd hmoved) hv
  | onward hp hmoved _ ih =>
      cases h' with
      | here =>
          rw [hs'] at hp
          cases hp
          exact absurd (congrArg Prod.snd hmoved) hv'
      | onward hp' hmoved' hrest =>
          rw [hp] at hp'
          cases hp'
          rw [hmoved] at hmoved'
          cases hmoved'
          exact ih hrest hs hv

/-- The pass ended as `q` with the visit of a status that began as `last`, and the record is as it
was then, but for the roles of the functions. -/
structure Rests (s : Scene) (status : Status) (last q : Pass) : Prop where
  status_eq : s.graph.status? q.record.status = some status
  not_moved : (s.visit (s.bindings last) status.items last).2 ≠ .moved
  visit_eq : (s.visit (s.bindings last) status.items last).1.record = q.record
  reports : s.Reports (s.bindings last) status.items q.outcome.state
  record_eq : last.record = { q.record with buckets := last.record.buckets }
  roles_eq : (∀ item ∈ status.items, item.isDispatch = false) → last.record = q.record

/-- What a visit found that does not move the record, unless it was cut off at the limit. -/
theorem rests_of_visit {status : Status} {v : Visit}
    (hs : s.graph.status? p.record.status = some status)
    (hvisit : s.visit (s.bindings p) status.items p = (q, v)) (hv : v ≠ .moved)
    (hr : r.record = q.record)
    (hreports : s.Reports (s.bindings p) status.items r.outcome.state) : s.Rests status p r := by
  obtain ⟨hb, hd⟩ := visit_record hvisit hv
  refine ⟨?_, ?_, ?_, hreports, ?_, fun hall => ?_⟩
  · rw [hr, hb]; exact hs
  · rw [hvisit]; exact hv
  · rw [hvisit, hr]
  · rw [hr, hb]
  · rw [hr, hd hall]

/-- **What a pass found in the end.**  With as many moves left as the limit allows, a pass that is
not cut off ends with a visit that does not move the record, and its state reports what that visit
found. -/
theorem drive_rests {left : ℕ} (hdrive : s.drive left p = (q, .ok ()))
    (hleft : s.engine.settings.maxHops ≤ p.hops + left) (hend : q.ending ≠ some .hopLimit) :
    ∃ last status, s.Enters p last ∧ s.Rests status last q := by
  fun_induction Scene.drive s left p with
  | case1 => cases hdrive
  | case2 left p status hs q' hv =>
      cases hdrive
      obtain ⟨item, hopen, hsusp⟩ := ((visit_open hv).2 rfl).resolve_left hend
      refine ⟨p, status, .here p, rests_of_visit hs hv (by simp) rfl ?_⟩
      unfold Pass.outcome
      rw [hsusp]
      exact reports_suspended hopen
  | case3 left p status hs q' hv =>
      cases hdrive
      refine ⟨p, status, .here p, rests_of_visit hs hv (by simp) rfl ?_⟩
      exact reports_settled status ((visit_open hv).1 rfl)
  | case4 p status hs q' hv =>
      -- a visit that moves the record needs a move, and none is left
      have h := s.visit_visited (s.bindings p) status.items p
      rw [hv] at h
      cases h with
      | moved hb _ _ _ hlt =>
          rw [hb.hops] at hlt
          omega
  | case5 p status hs q' left hv ih =>
      have h := s.visit_visited (s.bindings p) status.items p
      rw [hv] at h
      have hhops : q'.hops = p.hops + 1 := by
        cases h with
        | moved hb => exact congrArg (· + 1) hb.hops
      obtain ⟨last, final, henters, hrests⟩ := ih hdrive (by omega)
      exact ⟨last, final, .onward hs hv henters, hrests⟩

theorem goOn_rests (hgo : s.goOn p = (q, .ok ())) (hstate : q.outcome.state ≠ .hopLimit) :
    ∃ last status, s.Enters p last ∧ s.Rests status last q := by
  have hend : q.ending ≠ some .hopLimit := by
    intro h
    apply hstate
    unfold Pass.outcome
    rw [h]
    rfl
  unfold goOn at hgo
  split at hgo
  · next hlim =>
    cases hgo
    exact absurd hlim hend
  · exact drive_rests hgo (by omega) hend

/-! ### Operations -/

theorem bindings_withRoles (s : Scene) (r : Record) (roles : Buckets) {n : String}
    (hn : n ≠ "form_workflow_roles") :
    ({ r with buckets := roles } : Record).bindings s.graph.workflow s.moment n =
      r.bindings s.graph.workflow s.moment n := by
  have hfacts : (({ r with buckets := roles } : Record).facts s.graph.workflow).lookup n =
      (r.facts s.graph.workflow).lookup n := by
    simp only [Record.facts, List.lookup_cons, beq_eq_false_iff_ne.mpr hn]
    rfl
  unfold Record.bindings
  rw [hfacts]
  rfl

theorem Reports.of_alike {vars' : Variables} {state : PassState}
    (h : s.engine.rules.catalogue.Alike vars vars') (hr : s.Reports vars' items state) :
    s.Reports vars items state := by
  have hopen : s.openItem? vars' items = s.openItem? vars items := by
    have hholds : s.holds vars' = s.holds vars := by
      funext item
      unfold holds
      simp only [h.condition]
    unfold openItem?
    rw [hholds]
  exact ⟨hopen ▸ hr.suspended_iff, hopen ▸ hr.resting_iff⟩

/-- **The state that an operation answers with reports what is open then,** with the roles of the
functions as they were when the last visit of the pass began.  That visit is of the status that the
record is in, and does not move it.  On the record as the operation leaves it the same is open if the
status has no dispatch, or if expressions do not see the roles. -/
theorem operate_reports {op : Operation} {record : Record} {world : World} {outcome : Outcome}
    (hok : (s.operate op record world).answer = .ok outcome) (hstate : outcome.state ≠ .hopLimit) :
    ∃ opened last status, s.Opened record world op opened ∧ s.Enters opened last ∧
      s.graph.status? (s.operate op record world).record.status = some status ∧
      (s.visit (s.bindings last) status.items last).2 ≠ .moved ∧
      (s.visit (s.bindings last) status.items last).1.record = (s.operate op record world).record ∧
      last.record = { (s.operate op record world).record with buckets := last.record.buckets } ∧
      s.Reports (({ (s.operate op record world).record with
        buckets := last.record.buckets } : Record).bindings s.graph.workflow s.moment)
        status.items outcome.state ∧
      ((∀ item ∈ status.items, item.isDispatch = false) ∨
          s.engine.rules.catalogue.admits "form_workflow_roles" = false →
        s.Reports ((s.operate op record world).record.bindings s.graph.workflow s.moment)
          status.items outcome.state) := by
  have h := s.operate_operated op record world
  generalize s.operate op record world = reply at h hok
  cases h with
  | refused => cases hok
  | @opened p _ hopen =>
      rcases hgo : s.goOn p with ⟨q, e | ⟨⟩⟩
      · rw [hgo] at hok
        cases hok
      · rw [hgo] at hok
        cases hok
        obtain ⟨last, status, henters, hrests⟩ := goOn_rests hgo hstate
        have hreports : s.Reports (last.record.bindings s.graph.workflow s.moment) status.items
            q.outcome.state := hrests.reports
        refine ⟨p, last, status, hopen, henters, hrests.status_eq, hrests.not_moved,
          hrests.visit_eq, hrests.record_eq, ?_, ?_⟩
        · show s.Reports (({ q.record with buckets := last.record.buckets } : Record).bindings
            s.graph.workflow s.moment) status.items q.outcome.state
          rw [← hrests.record_eq]
          exact hreports
        · show _ → s.Reports (q.record.bindings s.graph.workflow s.moment) status.items
            q.outcome.state
          rintro (hall | hunseen)
          · rw [← hrests.roles_eq hall]
            exact hreports
          · refine hreports.of_alike fun n hn => ?_
            rw [hrests.record_eq]
            refine s.bindings_withRoles q.record last.record.buckets fun he => ?_
            rw [he, hunseen] at hn
            cases hn

end Scene

namespace Sample

/-- An item that may be fired as soon as some function has roles. -/
def take : Item :=
  ⟨"take", some "form_workflow_roles", none, .choice ⟨"Take", [], false, none, "intake", false⟩⟩

/-- Intake routes every request to the desk, and then it can be taken. -/
def intake : Status :=
  ⟨"intake", "Intake", [item "route" (.dispatch ⟨"_desk", .set, some "r-1", none, []⟩), take], false⟩

def routing : Workflow := ⟨"request", "Request", "intake", [intake], ∅, []⟩

theorem routing_check : routing.check .default = .ok () := by decide +kernel

/-- The scene of a workflow that routes. -/
def desk : Scene :=
  ⟨.ofSettings .default .accepting, ⟨.default, routing, routing_check⟩,
    ⟨some "ada", .interactive, now, ∅⟩⟩

def routed : Record := .create routing .nil now ∅ (some "ada")

def office : World := ⟨⟨[⟨"r-1", "Desk", "desk"⟩], ∅⟩, .empty, []⟩

theorem run_routed :
    (desk.operate .run routed office).answer = .ok ⟨"intake", .waiting, 0, 0, []⟩ := by
  decide +kernel

end Sample

namespace Scene

/-- The request is routed and waits, as nothing was open in its status before it was routed. -/
theorem operate_reports_sample :
    (Sample.desk.operate .run Sample.routed Sample.office).answer =
      .ok ⟨"intake", .waiting, 0, 0, []⟩ ∧
    Sample.desk.Reports (({ (Sample.desk.operate .run Sample.routed Sample.office).record with
      buckets := Sample.routed.buckets } : Record).bindings Sample.routing Sample.desk.moment)
      Sample.intake.items .waiting := by
  obtain ⟨opened, last, status, hopen, henters, hs, hmoved, -, hlast, hreports, -⟩ :=
    operate_reports Sample.run_routed (by simp)
  have hintake : Sample.desk.graph.status?
      (Sample.desk.operate .run Sample.routed Sample.office).record.status =
        some Sample.intake := by decide +kernel
  rw [hintake] at hs
  cases hs
  cases hopen with
  | alone =>
      -- the first visit of the pass is its last
      have hfirst : (Sample.desk.visit (Sample.desk.bindings (.start Sample.routed Sample.office))
          Sample.intake.items (.start Sample.routed Sample.office)).2 ≠ .moved := by decide +kernel
      have hstart : Sample.desk.graph.status? Sample.routed.status = some Sample.intake := by
        decide +kernel
      have hend : Sample.desk.graph.status? last.record.status = some Sample.intake := by
        rw [hlast]
        exact hintake
      obtain rfl := Enters.unique henters (.here _) hend hstart hmoved hfirst
      exact ⟨Sample.run_routed, hreports⟩

/-- **The state may be outdated.**  The request waits, but the roles that it was routed to in the
same visit have opened an item, which is offered right after. -/
theorem operate_report_outdated :
    (Sample.desk.operate .run Sample.routed Sample.office).answer =
      .ok ⟨"intake", .waiting, 0, 0, []⟩ ∧
    Sample.routed.WellFormed Sample.desk.graph ∧
    ¬ Sample.desk.Reports ((Sample.desk.operate .run Sample.routed Sample.office).record.bindings
      Sample.routing Sample.desk.moment) Sample.intake.items .waiting := by
  have hopen : Sample.desk.openItem?
      ((Sample.desk.operate .run Sample.routed Sample.office).record.bindings Sample.routing
        Sample.desk.moment) Sample.intake.items = some Sample.take := by decide +kernel
  refine ⟨Sample.run_routed, Graph.create_wellFormed _ _ _ _ _, fun h => ?_⟩
  rw [h.resting_iff.mp (Or.inl rfl)] at hopen
  cases hopen

end Scene
end Docket
