import Docket.Proofs.Engine.History
import Docket.Proofs.Engine.Refusal

/-! # Operations that strand a record

Marks stay with a record while its workflow may be replaced, and a jump back follows a mark without
asking whether its status is still declared.  A pass that follows such a mark moves the record into
a status that the graph does not have and fails there with `unknownStatus`, after everything that
it did on the way.

* `Graph.Path.within` is the step over a whole path: statuses and marks come from the targets of the
  workflow or from the place where the path began.
* `Scene.operate_unknownStatus_untouched_iff` says when the failure has no effect: exactly when the
  record was in an undeclared status before.  From a declared status the record ends up in one of
  its own marks (`Scene.Strands`).
* `Scene.operate_unknownStatus_touched` is such a record. -/

namespace Docket

/-- Along a path the status and the marks stay among those of its beginning and the declared ones. -/
theorem Graph.Path.within {g : Graph} {fired : Item → Prop} {K : String → Prop} {a b : Place}
    {es : List Entry} (h : g.Path fired a es b) (hf : ∀ item, fired item → item ∈ g.workflow.items)
    (hK : ∀ id, g.Declares id → K id) (ha : a.Within K) : b.Within K := by
  have step : ∀ {item : Item} {a b : Place} {e : Entry}, item ∈ g.workflow.items →
      item.Takes a e b → a.Within K → b.Within K := by
    rintro item a b e hi ⟨⟨target, mark, hr, hl⟩, _, _⟩ ha
    refine hl.within (fun hne => ?_) ha
    exact hK target ((Graph.target_declared hi hr).resolve_left hne)
  induction h with
  | here => exact ha
  | fired hi ht => exact step (hf _ hi) ht ha
  | onward _ hs hi _ ht ih => exact step (Graph.item_mem_of_status? hs hi) ht ih

namespace Scene

variable {s : Scene} {record : Record} {world : World} {op : Operation} {id : String} {p : Pass}

/-- The operation leaves the record in `id`, which is one of its marks and is not declared, with new
lines in its history. -/
structure Strands (s : Scene) (op : Operation) (record : Record) (world : World) (id : String) :
    Prop where
  marked : id ∈ record.marks
  undeclared : ¬ s.graph.Declares id
  status_eq : (s.operate op record world).record.status = id
  history_grows : ∃ e es, (s.operate op record world).record.history = record.history ++ e :: es

/-- Only a pass that nobody opens begins in a status that is not declared, and it ends there. -/
theorem Opened.goOn_of_undeclared (h : s.Opened record world op p)
    (hd : ¬ s.graph.Declares record.status) :
    s.goOn p = (Pass.start record world, .error (.unknownStatus record.status)) := by
  have hnone := Graph.status?_eq_none_iff.mpr hd
  cases h with
  | alone =>
      have hdrive : ∀ left, s.drive left (Pass.start record world) =
          (Pass.start record world, .error (.unknownStatus record.status)) := by
        intro left
        unfold drive
        rw [show (Pass.start record world).record = record from rfl, hnone]
      exact hdrive _
  | chosen hs | edited hs | triggered hs | answered hs | commanded hs =>
      rw [hnone] at hs
      cases hs

/-- A pass from a declared status that came to an undeclared one came to a mark of the record. -/
theorem Trail.marked {q : Pass} (h : s.Trail record op q) (hd : s.graph.Declares record.status)
    (hq : ¬ s.graph.Declares q.record.status) :
    q.record.status ∈ record.marks ∧ ∃ e es, q.record.history = record.history ++ e :: es := by
  obtain ⟨added, hadded⟩ := h
  constructor
  · have hw := hadded.path.within (K := fun id => s.graph.Declares id ∨ id ∈ record.marks)
      (fun _ hf => hf.mem_items) (fun _ h => Or.inl h) ⟨Or.inl hd, fun _ hm => Or.inr hm⟩
    exact hw.1.resolve_left hq
  · cases added with
    | nil =>
        have hstatus : q.record.status = record.status := hadded.path.status_eq
        rw [hstatus] at hq
        exact absurd hd hq
    | cons e es => exact ⟨e, es, hadded.history⟩

/-- A pass from a declared status that fails has stranded the record. -/
theorem Opened.strands {q : Pass} {e : EngineError} (h : s.Opened record world op p)
    (hd : s.graph.Declares record.status) (hgo : s.goOn p = (q, .error e))
    (hreply : s.operate op record world = finish (q, .error e)) :
    e = .unknownStatus q.record.status ∧ s.Strands op record world q.record.status := by
  obtain ⟨hnone, rfl⟩ := goOn_eq_error hgo
  have hq := Graph.status?_eq_none_iff.mp hnone
  have htrail := (s.kept_trail record op).goOn h.trail
  rw [hgo] at htrail
  obtain ⟨hmark, hgrows⟩ := htrail.marked hd hq
  refine ⟨rfl, hmark, hq, ?_, ?_⟩
  · rw [hreply]; rfl
  · rw [hreply]; exact hgrows

theorem Strands.not_untouched (h : s.Strands op record world id)
    (hd : s.graph.Declares record.status) :
    ¬ (s.operate op record world).Untouched record world := by
  intro hu
  have hstatus := h.status_eq
  rw [hu.record_eq] at hstatus
  exact h.undeclared (hstatus ▸ hd)

/-- **What a failure with an unknown status leaves.**  It leaves the record, the directory and the
calls of the notifier as they were exactly when the record was in an undeclared status before.  From
a declared status it strands the record at one of its marks. -/
theorem operate_unknownStatus_untouched_iff
    (hanswer : (s.operate op record world).answer = .error (.unknownStatus id)) :
    ((s.operate op record world).Untouched record world ↔ ¬ s.graph.Declares record.status) ∧
      (s.graph.Declares record.status → s.Strands op record world id) := by
  have h := s.operate_operated op record world
  generalize hreply : s.operate op record world = reply at h hanswer
  cases h with
  | refused hl href =>
      cases hanswer
      cases href with
      | astray _ hnone =>
          have hd := Graph.status?_eq_none_iff.mp hnone
          exact ⟨iff_of_true (refuse_untouched _ hl) hd, fun h => absurd h hd⟩
  | @opened p _ hopen =>
      by_cases hd : s.graph.Declares record.status
      · rcases hgo : s.goOn p with ⟨q, e | ⟨⟩⟩
        · rw [hgo] at hreply hanswer
          obtain ⟨rfl, hs⟩ := hopen.strands hd hgo hreply
          cases hanswer
          rw [← hreply]
          exact ⟨iff_of_false (hs.not_untouched hd) (not_not.mpr hd), fun _ => hs⟩
        · rw [hgo] at hanswer
          cases hanswer
      · rw [hopen.goOn_of_undeclared hd]
        exact ⟨iff_of_true ⟨rfl, rfl, rfl⟩ hd, fun h => absurd h hd⟩

end Scene

/-- A request that went out for advice from a status that its workflow no longer has. -/
def Sample.orphan : Record := { Sample.record with status := "advice", marks := ["outbox"] }

namespace Scene

theorem operate_unknownStatus_untouched_iff_sample :
    ((Sample.scene "ada").operate .run Sample.orphan Sample.world).answer =
      .error (.unknownStatus "outbox") ∧
    (Sample.scene "ada").Strands .run Sample.orphan Sample.world "outbox" := by
  have hanswer : ((Sample.scene "ada").operate .run Sample.orphan Sample.world).answer =
      .error (.unknownStatus "outbox") := by decide +kernel
  refine ⟨hanswer, (operate_unknownStatus_untouched_iff hanswer).2 ?_⟩
  exact List.mem_cons_of_mem _ List.mem_cons_self

/-- The request comes back to the missing status: the operation fails, and the record has moved. -/
theorem operate_unknownStatus_touched :
    Sample.orphan.workflowId = (Sample.scene "ada").graph.id ∧
    ((Sample.scene "ada").operate .run Sample.orphan Sample.world).answer =
      .error (.unknownStatus "outbox") ∧
    ((Sample.scene "ada").operate .run Sample.orphan Sample.world).record ≠ Sample.orphan := by
  decide +kernel

end Scene
end Docket
