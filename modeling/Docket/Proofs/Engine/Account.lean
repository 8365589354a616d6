import Docket.Proofs.Engine.Causes

/-! # The account of an operation

An operation accounts for everything that it writes into the failure log.  First come failures that
items of the workflow are at fault for, in the order in which they were met.  Last comes, and only
if the pass ends at the limit, the failure of the item that asked for one move too many.

* `Scene.Accounts` says so of two moments of a pass.  A pass that has not ended at the limit may go
  on (`Records.accounts`), and one that has does nothing more.
* `Scene.drive_accounts` is the induction over the statuses that a pass visits.
* `Scene.operate_accounted` says so of every operation.
* `Scene.operate_counts` concludes that no failure is lost and none is counted twice. -/

namespace Docket

open Expression (Variables)

namespace Scene

variable {s : Scene} {vars : Variables} {item : Item} {items : List Item} {p q r : Pass}

/-! ### Accounts -/

/-- The failure that ended a pass at the limit, if it ended there. -/
inductive Closing (s : Scene) (q : Pass) : List Failure → Prop
  | inside : q.ending ≠ some .hopLimit → Closing s q []
  | limited {item : Item} : item ∈ s.graph.workflow.items → q.ending = some .hopLimit →
      Closing s q [⟨s.site q item, .limit s.engine.settings.maxHops⟩]

/-- Between `p` and `q` items of the workflow failed, and then the pass ended at the limit or did
not. -/
def Accounts (s : Scene) (p q : Pass) : Prop :=
  ∃ fs tail, s.Notes p q (fs ++ tail) ∧ (∀ f ∈ fs, s.Fault f) ∧ s.Closing q tail

theorem Records.inside (h : s.Records p q) (hq : q.ending ≠ some .hopLimit) : s.Accounts p q := by
  obtain ⟨fs, hn, hfs⟩ := h
  rw [← List.append_nil fs] at hn
  exact ⟨fs, [], hn, hfs, .inside hq⟩

theorem Records.accounts (h : s.Records p q) (h' : s.Accounts q r) : s.Accounts p r := by
  obtain ⟨fs, hn, hfs⟩ := h
  obtain ⟨gs, tail, hn', hgs, hc⟩ := h'
  refine ⟨fs ++ gs, tail, ?_, List.forall_mem_append.mpr ⟨hfs, hgs⟩, hc⟩
  rw [List.append_assoc]
  exact hn.trans hn'

theorem Accounts.records (h : s.Accounts p q) (hq : q.ending ≠ some .hopLimit) :
    s.Records p q := by
  obtain ⟨fs, tail, hn, hfs, hc⟩ := h
  cases hc with
  | inside =>
      rw [List.append_nil] at hn
      exact ⟨fs, hn, hfs⟩
  | limited _ he => exact absurd he hq

theorem cutOff_accounts (hi : item ∈ s.graph.workflow.items) (p : Pass) :
    s.Accounts p (s.cutOff item p) :=
  ⟨[], [⟨s.site p item, .limit s.engine.settings.maxHops⟩], ⟨rfl, rfl⟩, by simp, .limited hi rfl⟩

theorem arrive_records (origin : Origin) (next : Place) (p : Pass) :
    s.Records p (s.arrive item p origin next) := Records.quiet rfl rfl

theorem noteEdit_accounts (h : s.Accounts p q) : s.Accounts p (s.noteEdit item q) := by
  obtain ⟨fs, tail, hn, hfs, hc⟩ := h
  refine ⟨fs, tail, ⟨hn.log, hn.failures⟩, hfs, ?_⟩
  cases hc with
  | inside hq => exact .inside hq
  | limited hi hq => exact .limited hi hq

/-! ### Moves, edits and visits -/

section Items

variable (hi : item ∈ s.graph.workflow.items) (hp : p.ending ≠ some .hopLimit)

include hi hp

theorem move_accounts (m : Move) : s.Accounts p (s.move item m p).1 := by
  rcases s.move_cases item p m with ⟨_, hm⟩ | ⟨_, _, _, hm⟩ | ⟨_, next, _, hm⟩
  · rw [hm]; exact cutOff_accounts hi p
  · rw [hm]; exact (Records.refl p).inside hp
  · rw [hm]; exact (arrive_records m.origin next p).inside hp

theorem applyEdit_accounts (edit : Edit) (form : Table Json) :
    s.Accounts p (s.applyEdit item edit form p) := by
  have hf : s.Records p (p.filledIn form) := Records.quiet rfl rfl
  have h := s.applyEdit_edited item edit form p
  generalize s.applyEdit item edit form p = q at h
  cases h with
  | noted => exact noteEdit_accounts (hf.inside hp)
  | limited => exact noteEdit_accounts (hf.accounts (cutOff_accounts hi _))
  | moved => exact hf.accounts ((arrive_records _ _ _).inside hp)

end Items

section Lists

variable (hi : ∀ item ∈ items, item ∈ s.graph.workflow.items)

include hi

theorem visit_accounts (vars : Variables) (p : Pass) (hp : p.ending ≠ some .hopLimit) :
    s.Accounts p (s.visit vars items p).1 := by
  induction items generalizing p with
  | nil => exact (Records.refl p).inside hp
  | cons item rest ih =>
      obtain ⟨hitem, hrest⟩ := List.forall_mem_cons.mp hi
      have h := s.visit_met vars item rest p
      generalize s.visit vars (item :: rest) p = r at h
      cases h with
      | closed =>
          have hn := noteCondition_records hitem vars p
          have he := (s.noteCondition_sameRecord vars item p).ending
          exact hn.accounts (ih hrest _ (he ▸ hp))
      | suspended => exact Records.inside (Records.quiet rfl rfl) (by simp)
      | @passed q m _ _ hperf =>
          have hr := perform_records hitem vars p
          have he := (s.perform_sameCourse vars item p).ending
          rw [hperf] at hr he
          exact hr.accounts (ih hrest q (he ▸ hp))
      | moved => exact (arrive_records _ _ p).inside hp
      | limited => exact cutOff_accounts hitem p

theorem performGlobal_accounts (vars : Variables) (p : Pass) (hp : p.ending ≠ some .hopLimit) :
    s.Accounts p (s.performGlobal vars items p) := by
  induction items generalizing p with
  | nil => exact (Records.refl p).inside hp
  | cons item rest ih =>
      obtain ⟨hitem, hrest⟩ := List.forall_mem_cons.mp hi
      have h := s.performGlobal_ran vars item rest p
      generalize s.performGlobal vars (item :: rest) p = r at h
      cases h with
      | skipped => exact ih hrest p hp
      | closed =>
          have hn := noteCondition_records hitem vars p
          have he := (s.noteCondition_sameRecord vars item p).ending
          exact hn.accounts (ih hrest _ (he ▸ hp))
      | @passed q m _ hperf =>
          have hr := perform_records hitem vars p
          have he := (s.perform_sameCourse vars item p).ending
          rw [hperf] at hr he
          exact hr.accounts (ih hrest q (he ▸ hp))
      | moved => exact (arrive_records _ _ p).inside hp
      | limited => exact cutOff_accounts hitem p

end Lists

/-! ### Whole passes -/

theorem visit_ending {v : Visit} (h : s.visit vars items p = (q, v)) (hv : v ≠ .halted) :
    q.ending = p.ending := by
  have hvisited := s.visit_visited vars items p
  rw [h] at hvisited
  cases hvisited with
  | through hq => exact hq.ending
  | suspended => exact absurd rfl hv
  | moved hq => exact hq.ending
  | limited => exact absurd rfl hv

theorem settle_ending (status : Status) (p : Pass) :
    (settle status p).ending ≠ some .hopLimit := by
  unfold settle
  cases status.isEndpoint with
  | false => simp
  | true => simp

theorem drive_accounts (left : ℕ) (p : Pass) (hp : p.ending ≠ some .hopLimit) :
    s.Accounts p (s.drive left p).1 := by
  have visited : ∀ {p q : Pass} {status : Status} {v : Visit},
      s.graph.status? p.record.status = some status →
      s.visit (s.bindings p) status.items p = (q, v) → p.ending ≠ some .hopLimit →
      s.Accounts p q := by
    intro p q status v hs hv hp
    have h := visit_accounts (fun item hi => Graph.item_mem_of_status? hs hi) (s.bindings p) p hp
    rw [hv] at h
    exact h
  fun_induction Scene.drive s left p with
  | case1 left p hs => exact (Records.refl p).inside hp
  | case2 left p status hs q hv => exact visited hs hv hp
  | case3 left p status hs q hv =>
      have he : q.ending ≠ some .hopLimit := visit_ending hv (by decide) ▸ hp
      have hsettle : s.Records q (settle status q) := Records.quiet rfl rfl
      exact (((visited hs hv hp).records he).trans hsettle).inside (settle_ending status q)
  | case4 p status hs q hv => exact visited hs hv hp
  | case5 p status hs q left hv ih =>
      have he : q.ending ≠ some .hopLimit := visit_ending hv (by decide) ▸ hp
      exact ((visited hs hv hp).records he).accounts (ih he)

theorem goOn_accounts (h : s.Accounts p q) : s.Accounts p (s.goOn q).1 := by
  unfold goOn
  split
  · exact h
  · next hq => exact (h.records hq).accounts (drive_accounts _ q hq)

/-! ### Operations -/

/-- The reply of a pass that accounts for its failures. -/
inductive Accounted (s : Scene) (p : Pass) : Reply Outcome → Prop
  | refused {q : Pass} {e : EngineError} : s.Records p q → Accounted s p (refuse q e)
  | finished {r : Pass × Except EngineError Unit} : s.Accounts p r.1 → Accounted s p (finish r)

theorem Accounts.accounted (h : s.Accounts p q) : s.Accounted p (finish (s.goOn q)) :=
  .finished (goOn_accounts h)

variable {record : Record} {world : World} {status : Status}

theorem start_ending (record : Record) (world : World) :
    (Pass.start record world).ending ≠ some .hopLimit := by
  simp [Pass.start]

theorem status?_of_statusOf (h : s.statusOf record = .ok status) :
    s.graph.status? record.status = some status := by
  unfold statusOf at h
  split at h
  · next hs => cases h; exact hs
  · cases h

theorem items_of_checked
    (h : (do s.begin? record; s.statusOf record) = .ok status) :
    ∀ item ∈ status.items, item ∈ s.graph.workflow.items := by
  obtain ⟨⟨⟩, _, hs⟩ := bind_eq_ok.mp h
  exact fun item hi => Graph.item_mem_of_status? (status?_of_statusOf hs) hi

theorem status_of_checked {id : String}
    (h : (do s.begin? record; namedItem (← s.statusOf record) id) = .ok item) :
    ∃ status, s.graph.status? record.status = some status ∧ item ∈ status.items := by
  obtain ⟨⟨⟩, _, h⟩ := bind_eq_ok.mp h
  obtain ⟨status, hs, hnamed⟩ := bind_eq_ok.mp h
  refine ⟨status, status?_of_statusOf hs, ?_⟩
  unfold namedItem at hnamed
  split at hnamed
  · cases hnamed
  · next found hfound =>
    split at hnamed
    · cases hnamed
      exact List.mem_of_find?_eq_some hfound
    · cases hnamed

theorem item_of_checked {id : String}
    (h : (do s.begin? record; namedItem (← s.statusOf record) id) = .ok item) :
    item ∈ s.graph.workflow.items := by
  obtain ⟨status, hs, hi⟩ := status_of_checked h
  exact Graph.item_mem_of_status? hs hi

theorem fire_accounts (hi : item ∈ s.graph.workflow.items) (hp : p.ending ≠ some .hopLimit)
    {form : Table Json} (h : s.fire item form p = .ok q) : s.Accounts p q := by
  unfold fire at h
  split at h
  · split at h
    · cases h
      exact move_accounts hi hp _
    · cases h
  · split at h
    · split at h
      · cases h
      · cases h
        exact applyEdit_accounts hi hp _ form
    · cases h
  · cases h

theorem runItems_accounted {action : GlobalAction} (ha : action ∈ s.graph.workflow.globalActions)
    (h : s.Records p q) (hq : q.ending ≠ some .hopLimit) : s.Accounted p (s.runItems action q) := by
  have hitems : ∀ item ∈ action.items, item ∈ s.graph.workflow.items :=
    fun item hi => Workflow.mem_items_of_globalAction ha hi
  unfold runItems
  split
  · exact .refused h
  · exact (h.accounts (performGlobal_accounts hitems _ q hq)).accounted

theorem run_accounted (s : Scene) (record : Record) (world : World) :
    s.Accounted (Pass.start record world) (s.run record world) := by
  have hstart := Records.refl (s := s) (Pass.start record world)
  unfold run
  simp only
  split
  · exact .refused hstart
  · exact (hstart.inside (start_ending record world)).accounted

theorem submit_accounted (s : Scene) (record : Record) (world : World) (id : String)
    (form : Table Json) :
    s.Accounted (Pass.start record world) (s.submit record world id form) := by
  have hstart := Records.refl (s := s) (Pass.start record world)
  unfold submit
  simp only
  split
  · exact .refused hstart
  · next item hchecked =>
    have hitem := item_of_checked hchecked
    have hn := noteCondition_records hitem (s.bindings (Pass.start record world))
      (Pass.start record world)
    have hne := start_ending record world
    rw [← (s.noteCondition_sameRecord (s.bindings (Pass.start record world)) item
      (Pass.start record world)).ending] at hne
    split
    · split
      · exact .refused hn
      · next q hfire => exact (hn.accounts (fire_accounts hitem hne hfire)).accounted
    · exact .refused hn

theorem trigger_accounted (s : Scene) (record : Record) (world : World) (name : String) :
    s.Accounted (Pass.start record world) (s.trigger record world name) := by
  have hstart := Records.refl (s := s) (Pass.start record world)
  unfold trigger
  simp only
  split
  · exact .refused hstart
  · next status hchecked =>
    have hitems := items_of_checked hchecked
    have hr := firstTriggered_records hitems (s.bindings (Pass.start record world)) name
      (Pass.start record world)
    have hl := s.firstTriggered_logged (s.bindings (Pass.start record world)) name status.items
      (Pass.start record world)
    split
    · next q item jump hfirst =>
      rw [hfirst] at hr hl
      have hitem := hitems item (List.mem_of_find?_eq_some (firstTriggered_eq_some hfirst).1)
      have hne := start_ending record world
      rw [← hl.sameCourse.ending] at hne
      exact (hr.accounts (move_accounts hitem hne _)).accounted
    · next q hfirst =>
      rw [hfirst] at hr hl
      have hne := start_ending record world
      rw [← hl.sameCourse.ending] at hne
      split
      · exact .refused hr
      · next action ha => exact runItems_accounted (List.mem_of_find?_eq_some ha) hr hne

theorem runGlobal_accounted (s : Scene) (record : Record) (world : World) (id : String) :
    s.Accounted (Pass.start record world) (s.runGlobal record world id) := by
  have hstart := Records.refl (s := s) (Pass.start record world)
  unfold runGlobal
  simp only
  split
  · exact .refused hstart
  · split
    · exact .refused hstart
    · next action ha =>
      split
      · exact runItems_accounted (List.mem_of_find?_eq_some ha) hstart (start_ending record world)
      · exact .refused hstart

/-- **Every operation accounts for the failures that it records.** -/
theorem operate_accounted (s : Scene) (op : Operation) (record : Record) (world : World) :
    s.Accounted (Pass.start record world) (s.operate op record world) := by
  cases op with
  | run => exact s.run_accounted record world
  | submit id form => exact s.submit_accounted record world id form
  | trigger name => exact s.trigger_accounted record world name
  | runGlobal id => exact s.runGlobal_accounted record world id

theorem finish_eq_ok {r : Pass × Except EngineError Unit} {outcome : Outcome} :
    (finish r).answer = .ok outcome ↔ r.2 = .ok () ∧ r.1.outcome = outcome := by
  obtain ⟨q, e | ⟨⟩⟩ := r
  · constructor
    · intro h
      cases h
    · rintro ⟨h, _⟩
      cases h
  · exact ⟨fun h => ⟨rfl, Except.ok.inj h⟩, fun h => congrArg Except.ok h.2⟩

theorem Accounts.counts (h : s.Accounts p q) :
    q.world.log.total + p.failures = p.world.log.total + q.failures ∧
      p.world.log.Includes q.world.log := by
  obtain ⟨fs, tail, hn, _, _⟩ := h
  have htotal := p.world.log.total_recordAll s.moment.now (fs ++ tail)
  rw [← hn.log] at htotal
  have hfailures := hn.failures
  refine ⟨by omega, ?_⟩
  rw [hn.log]
  exact FailureLog.includes_recordAll _ _ _

/-- **No failure is lost or counted twice.**  Whatever the log has counted before, an operation that
succeeds adds exactly as many failures to it as it answers.  Every line of the log stays, and none
counts less than before. -/
theorem operate_counts {op : Operation} {outcome : Outcome}
    (hok : (s.operate op record world).answer = .ok outcome) :
    (s.operate op record world).world.log.total = world.log.total + outcome.failures ∧
      world.log.Includes (s.operate op record world).world.log := by
  have h := s.operate_accounted op record world
  generalize s.operate op record world = reply at h hok
  cases h with
  | refused => cases hok
  | @finished r h =>
      obtain ⟨_, rfl⟩ := finish_eq_ok.mp hok
      exact h.counts

end Scene

/-! ### A bell that nobody hears -/

namespace Sample

/-- A request that calls a role which does not exist. -/
def calling : Workflow where
  id := "request"
  name := "Request"
  initial := "draft"
  statuses := [⟨"draft", "Draft", [item "ring" (.notify ⟨.webservice, "clerk", "Come", none⟩)], false⟩]
  functions := ∅
  globalActions := []

theorem calling_check : calling.check .default = .ok () := by decide +kernel

def bell : Scene :=
  ⟨.ofSettings .default .accepting, ⟨.default, calling, calling_check⟩, ⟨none, .automatic, now, ∅⟩⟩

/-- What is left of a world when the bell has rung once. -/
def rung : World := (bell.operate .run (.create calling .nil now ∅ (some "ada")) world).world

end Sample

namespace Scene

/-- The bell rings once more, and the one line of the log counts it. -/
theorem operate_counts_sample :
    Sample.rung.log.lines.map LoggedError.count = [1] ∧
    (Sample.bell.operate .run (.create Sample.calling .nil Sample.now ∅ (some "ada"))
      Sample.rung).answer = .ok ⟨"draft", .waiting, 0, 1, []⟩ ∧
    (Sample.bell.operate .run (.create Sample.calling .nil Sample.now ∅ (some "ada"))
      Sample.rung).world.log.total = 2 := by
  have hok : (Sample.bell.operate .run (.create Sample.calling .nil Sample.now ∅ (some "ada"))
      Sample.rung).answer = .ok ⟨"draft", .waiting, 0, 1, []⟩ := by decide +kernel
  have hlines : Sample.rung.log.lines.map LoggedError.count = [1] := by decide +kernel
  have htotal : Sample.rung.log.total = 1 := by decide +kernel
  obtain ⟨hcounts, _⟩ := operate_counts hok
  rw [htotal] at hcounts
  exact ⟨hlines, hok, hcounts⟩

end Scene
end Docket
