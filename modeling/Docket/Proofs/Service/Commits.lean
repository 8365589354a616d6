import Docket.Proofs.Engine.Lineage
import Docket.Proofs.Service.Traffic

/-! # What tasks save

A task loads its record, runs its pass and saves what came of it.  Between loading and saving
nobody else saves that record, since the task is alone with it, so what the task holds is what the
service has.

* `Commit` is a pass that was done, with the version that it ran on and what it came to.
* `Trace.saves` reads back from a trace what was saved.
* `Traffic.Sound` says what the stages of the tasks stand for, and `Traffic.Moved.sound` is its
  step. -/

namespace Docket

/-! ### The pass of a task -/

namespace Task

def operation (t : Task) : Operation :=
  match t.change with
  | .create .. | .run => .run
  | .submit item form => .submit item form
  | .trigger name => .trigger name
  | .runGlobal action => .runGlobal action

def creates (t : Task) : Bool :=
  match t.change with
  | .create .. => true
  | _ => false

theorem pass_eq_operate (t : Task) (scene : Scene) (r : Record) (world : World) :
    t.pass scene r world = scene.operate t.operation r world := by
  unfold pass operation
  cases t.change with
  | _ => rfl

/-- The pass of a task may start from a record: from a new one if there was none, or from the last
version. -/
def StartsFrom (t : Task) (graph : Graph) (last? : Option Record) (base : Record) : Prop :=
  match t.change with
  | .create _ data =>
      last? = none ∧ base = .create graph.workflow t.recordId t.now data t.user
  | _ => last? = some base

/-- A pass starts from the history so far. -/
theorem StartsFrom.history {t : Task} {graph : Graph} {last? : Option Record} {base : Record}
    (h : t.StartsFrom graph last? base) : base.history = last?.elim [] Record.history := by
  unfold StartsFrom at h
  split at h
  · obtain ⟨rfl, rfl⟩ := h
    rfl
  · rw [h]
    rfl

end Task

namespace Service

variable {s next : Service} {t : Task} {g : Graph} {r : Record} {id : Uuid} {stage after : Stage}

/-- The last version of a record, if there is one. -/
def version? (s : Service) (id : Uuid) : Option Record := (s.store.load id).toOption

/-- The history of a record so far. -/
def historyOf (s : Service) (id : Uuid) : List Entry := (s.version? id).elim [] Record.history

theorem version?_of_load (h : s.store.load id = .ok r) : s.version? id = some r := by
  unfold version?
  rw [h]
  rfl

theorem version?_congr (h : next.store.load id = s.store.load id) :
    next.version? id = s.version? id := by
  unfold version?
  rw [h]

theorem id_of_load {store : Store} (h : store.load id = .ok r) : r.id = id := by
  unfold Store.load at h
  split at h
  · split at h
    · next hget =>
      cases h
      exact Keyed.key_of_get? hget
    · cases h
  · cases h

theorem id_of_graph {workflow : String} (h : s.graph workflow = .ok g) : g.id = workflow := by
  unfold graph at h
  split at h
  · next hget =>
    cases h
    exact Keyed.key_of_get? hget
  · cases h

theorem find_eq_ok : s.find id = .ok (g, r) ↔
    s.store.load id = .ok r ∧ s.graph r.workflowId = .ok g := by
  unfold find
  cases s.store.load id with
  | error e => simp [bind, Except.bind]
  | ok q =>
      cases hg : s.graph q.workflowId with
      | error e =>
          simp only [bind, Except.bind, hg, Except.ok.injEq, reduceCtorEq, false_iff, not_and]
          rintro rfl
          rw [hg]
          rintro ⟨⟩
      | ok g' =>
          simp only [bind, Except.bind, pure, Except.pure, hg, Except.ok.injEq, Prod.mk.injEq]
          constructor
          · rintro ⟨rfl, rfl⟩
            exact ⟨rfl, hg⟩
          · rintro ⟨rfl, h⟩
            rw [hg] at h
            exact ⟨Except.ok.inj h, rfl⟩

theorem fetched (h : s.fetch t = .ok (g, r)) :
    r.id = t.recordId ∧ s.graph r.workflowId = .ok g := by
  unfold fetch at h
  split at h
  · next workflow data _ =>
    cases hg : s.graph workflow with
    | error e =>
        rw [hg] at h
        cases h
    | ok g' =>
        rw [hg] at h
        cases h
        refine ⟨rfl, ?_⟩
        show s.graph g.id = _
        rw [id_of_graph hg, hg]
  · obtain ⟨hload, hgraph⟩ := find_eq_ok.mp h
    exact ⟨id_of_load hload, hgraph⟩

theorem version?_of_fetch (h : s.fetch t = .ok (g, r)) (hc : t.creates = false) :
    s.version? t.recordId = some r := by
  unfold fetch at h
  split at h
  · next hchange =>
    rw [Task.creates, hchange] at hc
    cases hc
  · exact version?_of_load (find_eq_ok.mp h).1

theorem startsFrom_of_fetch (h : s.fetch t = .ok (g, r))
    (hnew : t.creates = true → s.version? t.recordId = none) :
    t.StartsFrom g (s.version? t.recordId) r := by
  cases hchange : t.change with
  | create workflow data =>
      have hlast := hnew (by rw [Task.creates, hchange])
      simp only [fetch, hchange] at h
      cases hg : s.graph workflow with
      | error e =>
          rw [hg] at h
          cases h
      | ok g' =>
          rw [hg] at h
          cases h
          rw [Task.StartsFrom, hchange]
          exact ⟨hlast, rfl⟩
  | _ =>
      rw [Task.StartsFrom, hchange]
      exact version?_of_fetch h (by rw [Task.creates, hchange])

/-- What a task fetches depends on nothing but the workflows and the last version of its record. -/
theorem fetch_congr (hw : next.workflows = s.workflows)
    (hload : next.store.load t.recordId = s.store.load t.recordId) : next.fetch t = s.fetch t := by
  unfold fetch find graph
  rw [hw, hload]

namespace Stepped

theorem fixed (h : s.Stepped t stage next after) :
    next.engine = s.engine ∧ next.workflows = s.workflows := by
  cases h with
  | _ => exact ⟨rfl, rfl⟩

theorem of_loaded (h : s.Stepped t stage next (.loaded g r)) :
    s.fetch t = .ok (g, r) ∧ next = s := by
  cases h with
  | loaded hfetch => exact ⟨hfetch, rfl⟩

theorem of_passed {result : Changed} (h : s.Stepped t stage next (.passed result)) :
    ∃ g r reply, stage = .loaded g r ∧ t.pass (s.scene t g) r s.world = reply ∧
      reply.answer = .ok result.outcome ∧ reply.record = result.record ∧
      next = { s with world := reply.world } := by
  cases h with
  | @passed g r _ hok => exact ⟨g, r, _, rfl, rfl, hok, rfl, rfl⟩

end Stepped

end Service

/-! ### What is saved -/

/-- What a task has saved, once it has. -/
def Stage.stored? : Stage → Option Changed
  | .saved _ result => some result
  | .leaving answer | .finished answer => answer.toOption
  | _ => none

namespace Event

def save? : Event → Option (ℕ × Changed)
  | .step n (.passed result) (.saved _ _) => some (n, result)
  | _ => none

end Event

theorem Service.Stepped.saves {s next : Service} {t : Task} {stage after : Stage}
    (h : s.Stepped t stage next after) (n : ℕ) :
    (∃ result, stage = .passed result ∧ after = .saved result.outcome.jobs result ∧
      s.store.save result.record = .ok next.store) ∨
    (Event.save? (.step n stage after) = none ∧ after.stored? = stage.stored? ∧
      next.store = s.store) := by
  cases h with
  | @saved result store hsave => exact Or.inl ⟨result, rfl, rfl, hsave⟩
  | _ => exact Or.inr ⟨rfl, rfl, rfl⟩

namespace Trace

variable {trace : Trace} {n m : ℕ} {id : Uuid} {event : Event} {result : Changed}

/-- What was saved, and by which task, in order. -/
def saves (trace : Trace) : List (ℕ × Changed) := trace.filterMap Event.save?

/-- What a task saved. -/
def savedBy (trace : Trace) (n : ℕ) : List Changed := byTask n (saves trace)

def versions (trace : Trace) (id : Uuid) : List (ℕ × Changed) :=
  (saves trace).filter fun save => save.2.record.id = id

theorem saves_concat (trace : Trace) (event : Event) :
    saves (trace ++ [event]) = saves trace ++ event.save?.toList :=
  filterMap_concat Event.save? trace event

theorem savedBy_of_none (h : event.save? = none) (n : ℕ) :
    savedBy (trace ++ [event]) n = savedBy trace n := by
  unfold savedBy
  rw [saves_concat, h, Option.toList_none, List.append_nil]

theorem savedBy_of_some (h : event.save? = some (m, result)) (n : ℕ) :
    savedBy (trace ++ [event]) n = savedBy trace n ++ if m = n then [result] else [] := by
  unfold savedBy
  rw [saves_concat, h, Option.toList_some, byTask_concat]

theorem mem_versions : (n, result) ∈ versions trace id ↔
    (n, result) ∈ saves trace ∧ result.record.id = id := by
  simp [versions]

theorem mem_versions_append {save : ℕ × Changed} (h : save ∈ versions trace id) (more : Trace) :
    save ∈ versions (trace ++ more) id := by
  unfold versions saves at h ⊢
  rw [List.filterMap_append, List.filter_append]
  exact List.mem_append_left _ h

theorem versions_of_none (h : event.save? = none) (id : Uuid) :
    versions (trace ++ [event]) id = versions trace id := by
  unfold versions
  rw [saves_concat, h, Option.toList_none, List.append_nil]

theorem versions_of_some (h : event.save? = some (m, result)) (id : Uuid) :
    versions (trace ++ [event]) id =
      versions trace id ++ if result.record.id = id then [(m, result)] else [] := by
  unfold versions
  rw [saves_concat, h, Option.toList_some, List.filter_append]
  congr 1
  by_cases hid : result.record.id = id <;> simp [hid]

end Trace

/-! ### The stages of tasks -/

/-- A pass that was done: for which task, by which workflow, on which version of the record, and
what came of it. -/
structure Commit where
  task : ℕ
  graph : Graph
  base : Record
  result : Changed

namespace Commit

/-- What is saved of a pass. -/
def save (c : Commit) : ℕ × Changed := (c.task, c.result)

/-- The lines of the history that the pass wrote. -/
def added (c : Commit) : List Entry := c.result.record.history.drop c.base.history.length

/-- The pass was done, as the trace says: for its task and on the record of the task, by the
workflow of that record, and it came to its result. -/
structure Done (rs : Requests) (s : Service) (trace : Trace) (c : Commit) : Prop where
  event : .step c.task (.loaded c.graph c.base) (.passed c.result) ∈ trace
  id_eq : c.base.id = (rs.task c.task).recordId
  graph_eq : s.graph c.base.workflowId = .ok c.graph
  pass : ∃ world reply,
    (rs.task c.task).pass (s.scene (rs.task c.task) c.graph) c.base world = reply ∧
    reply.answer = .ok c.result.outcome ∧ reply.record = c.result.record

variable {rs : Requests} {s : Service} {trace : Trace} {c : Commit}

theorem Done.mono (h : c.Done rs s trace) (more : Trace) : c.Done rs s (trace ++ more) :=
  ⟨List.mem_append_left _ h.event, h.id_eq, h.graph_eq, h.pass⟩

theorem Done.continues (h : c.Done rs s trace) : c.result.record.Continues c.base := by
  obtain ⟨world, reply, hpass, -, hrecord⟩ := h.pass
  rw [← hrecord, ← hpass, Task.pass_eq_operate]
  exact Scene.operate_continues ..

theorem Done.record_id (h : c.Done rs s trace) : c.result.record.id = (rs.task c.task).recordId :=
  h.continues.id_eq.trans h.id_eq

theorem Done.history (h : c.Done rs s trace) :
    c.result.record.history = c.base.history ++ c.added :=
  List.prefix_append_drop h.continues.history

end Commit

namespace Traffic

variable {rs : Requests} {s : Service} {t u : Traffic} {n m : ℕ} {id : Uuid}

/-- The stages stand for what they say.  The locks serve the tasks; a task that has loaded holds
what it would load now; a task whose pass is done holds what came of what it would load now; and a
task has saved what its stage says, once, and about its own record. -/
structure Sound (rs : Requests) (s : Service) (t : Traffic) : Prop where
  engine_eq : t.service.engine = s.engine
  workflows_eq : t.service.workflows = s.workflows
  serves : t.service.locks.Serves (t.stays rs)
  loaded : ∀ {n : ℕ} {g : Graph} {r : Record}, t.stage n = .loaded g r →
    t.service.fetch (rs.task n) = .ok (g, r)
  passed : ∀ {n : ℕ} {result : Changed}, t.stage n = .passed result →
    ∃ g r, t.service.fetch (rs.task n) = .ok (g, r) ∧ Commit.Done rs s t.trace ⟨n, g, r, result⟩
  savedBy : ∀ n, t.trace.savedBy n = (t.stage n).stored?.toList
  recordId_eq : ∀ {n : ℕ} {result : Changed}, (n, result) ∈ t.trace.saves →
    result.record.id = (rs.task n).recordId

theorem sound_start (rs : Requests) (h : s.locks = .empty) : (start s).Sound rs s where
  engine_eq := rfl
  workflows_eq := rfl
  serves := serves_start rs h
  loaded h := nomatch h
  passed h := nomatch h
  savedBy _ := rfl
  recordId_eq h := nomatch h

namespace Sound

variable {service : Service} {after : Stage} {result : Changed}

theorem record_id (h : t.Sound rs s) (hn : t.stage n = .passed result) :
    result.record.id = (rs.task n).recordId := by
  obtain ⟨g, r, -, hdone⟩ := h.passed hn
  exact hdone.record_id

theorem mem_versions (h : t.Sound rs s) : (n, result) ∈ t.trace.versions id ↔
    (rs.task n).recordId = id ∧ (t.stage n).stored? = some result := by
  rw [Trace.mem_versions, ← Option.mem_toList, ← h.savedBy, Trace.savedBy, mem_byTask]
  constructor
  · rintro ⟨hmem, rfl⟩
    exact ⟨(h.recordId_eq hmem).symm, hmem⟩
  · rintro ⟨rfl, hmem⟩
    exact ⟨hmem, h.recordId_eq hmem⟩

/-- While a task is in, no other task changes what it would load. -/
theorem fetch_other (h : t.Sound rs s)
    (hstep : t.service.Stepped (rs.task n) (t.stage n) service after)
    (hm : (t.stage m).isIn? = some true) (hne : m ≠ n) :
    service.fetch (rs.task m) = t.service.fetch (rs.task m) := by
  refine Service.fetch_congr hstep.fixed.2 ?_
  rcases hstep.saves n with ⟨result, hn, -, hsave⟩ | ⟨-, -, hstore⟩
  · rw [Store.load_save hsave, if_neg]
    rw [h.record_id hn]
    exact fun hid => hne (alone h.serves hm (by rw [hn]; rfl) hid.symm)
  · rw [hstore]

/-! What the stages stand for after a step of the task `n`. -/

theorem loaded_advance (h : t.Sound rs s)
    (hstep : t.service.Stepped (rs.task n) (t.stage n) service after) {g : Graph} {r : Record}
    (hm : (t.advance n service after).stage m = .loaded g r) :
    service.fetch (rs.task m) = .ok (g, r) := by
  by_cases hmn : m = n
  · subst hmn
    rw [advance_self] at hm
    obtain ⟨hfetch, rfl⟩ := (hm ▸ hstep).of_loaded
    exact hfetch
  · rw [advance_of_ne t hmn] at hm
    rw [h.fetch_other hstep (by rw [hm]; rfl) hmn]
    exact h.loaded hm

theorem passed_advance (h : t.Sound rs s)
    (hstep : t.service.Stepped (rs.task n) (t.stage n) service after)
    (hm : (t.advance n service after).stage m = .passed result) :
    ∃ g r, service.fetch (rs.task m) = .ok (g, r) ∧
      Commit.Done rs s (t.advance n service after).trace ⟨m, g, r, result⟩ := by
  by_cases hmn : m = n
  · subst hmn
    rw [advance_self] at hm
    obtain ⟨g, r, reply, hstage, hpass, hanswer, hrecord, rfl⟩ := (hm ▸ hstep).of_passed
    have hfetch := h.loaded hstage
    obtain ⟨hid, hgraph⟩ := Service.fetched hfetch
    refine ⟨g, r, hfetch, List.mem_append_right _ ?_, hid, ?_, t.service.world, reply, ?_, hanswer,
      hrecord⟩
    · rw [hstage, hm]
      exact List.mem_singleton_self _
    · rw [← hgraph, Service.graph, Service.graph, h.workflows_eq]
    · rw [← hpass, Service.scene, Service.scene, h.engine_eq]
  · rw [advance_of_ne t hmn] at hm
    rw [h.fetch_other hstep (by rw [hm]; rfl) hmn]
    obtain ⟨g, r, hfetch, hdone⟩ := h.passed hm
    exact ⟨g, r, hfetch, hdone.mono _⟩

theorem savedBy_advance (h : t.Sound rs s)
    (hstep : t.service.Stepped (rs.task n) (t.stage n) service after) (m : ℕ) :
    (t.advance n service after).trace.savedBy m =
      ((t.advance n service after).stage m).stored?.toList := by
  rw [advance_trace]
  rcases hstep.saves n with ⟨result, hstage, rfl, -⟩ | ⟨hnone, hstored, -⟩
  · have hsave : Event.save? (.step n (t.stage n) (.saved result.outcome.jobs result)) =
        some (n, result) := by
      rw [hstage]
      rfl
    rw [Trace.savedBy_of_some hsave, h.savedBy]
    by_cases hmn : m = n
    · rw [hmn, advance_self, if_pos rfl, hstage]
      rfl
    · rw [advance_of_ne t hmn, if_neg (Ne.symm hmn), List.append_nil]
  · rw [Trace.savedBy_of_none hnone, h.savedBy]
    by_cases hmn : m = n
    · rw [hmn, advance_self, hstored]
    · rw [advance_of_ne t hmn]

theorem recordId_advance (h : t.Sound rs s)
    (hstep : t.service.Stepped (rs.task n) (t.stage n) service after)
    (hm : (m, result) ∈ (t.advance n service after).trace.saves) :
    result.record.id = (rs.task m).recordId := by
  rw [advance_trace, Trace.saves_concat, List.mem_append] at hm
  rcases hm with hm | hm
  · exact h.recordId_eq hm
  · rcases hstep.saves n with ⟨saved, hstage, rfl, -⟩ | ⟨hnone, -⟩
    · rw [hstage] at hm
      cases List.mem_singleton.mp hm
      exact h.record_id hstage
    · rw [hnone] at hm
      cases hm

end Sound

/-- **A turn keeps the stages sound.** -/
theorem Moved.sound (hmoved : t.Moved rs u) (h : t.Sound rs s) : u.Sound rs s := by
  have hserves := hmoved.serves h.serves
  cases hmoved with
  | look hlook =>
      obtain ⟨⟨world, rfl⟩, -⟩ := hlook.cases
      exact ⟨h.engine_eq, h.workflows_eq, hserves, h.loaded, h.passed, h.savedBy, h.recordId_eq⟩
  | took htake =>
      obtain ⟨rest, -, rfl⟩ := Service.takeJob?_eq htake
      refine ⟨h.engine_eq, h.workflows_eq, hserves, h.loaded, fun hn => ?_, fun n => ?_,
        fun hn => ?_⟩
      · obtain ⟨g, r, hfetch, hdone⟩ := h.passed hn
        exact ⟨g, r, hfetch, hdone.mono _⟩
      · rw [← h.savedBy]
        exact Trace.savedBy_of_none rfl n
      · rw [Trace.saves_concat, List.mem_append] at hn
        exact h.recordId_eq (hn.resolve_right List.not_mem_nil)
  | task hstep =>
      obtain ⟨hengine, hworkflows⟩ := hstep.fixed
      exact ⟨hengine.trans h.engine_eq, hworkflows.trans h.workflows_eq, hserves,
        h.loaded_advance hstep, h.passed_advance hstep, h.savedBy_advance hstep,
        h.recordId_advance hstep⟩

end Traffic

end Docket
