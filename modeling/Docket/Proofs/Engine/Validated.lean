import Docket.Proofs.Engine.Account

/-! # Loading checks enough

Every text that an engine ever evaluates is a text of an item, and loading has checked the texts of
all items, each in the way in which it is evaluated.  So an expression or a template that fails in
an operation fails late: a variable has no value, or an operation is given values that it does not
take.  It is never a fault of the text itself.

* `Scene.Fault.late` says so of one failure that an item is at fault for.
* `Scene.LateFailures` says so of everything that is written into the failure log.
* `Scene.texts_evaluate` is the statement about the texts and about all operations. -/

namespace Docket

open Expression (Evaluator Evaluates Rules Variables)

namespace Scene

variable {s : Scene} {item : Item} {p q : Pass} {record : Record} {world : World}

/-! ### One failure -/

section Rules

variable (hr : s.engine.rules = s.graph.rules)

include hr

theorem Arises.late {cause : Cause} (hi : item ∈ s.graph.workflow.items)
    (h : s.Arises item cause) : ∀ e, cause.error? = some e → e.Late := by
  intro e he
  cases h with
  | @condition vars source e' hs hc =>
      cases he
      rw [hr] at hc
      exact (Graph.admits_expression hi hs).condition vars e hc
  | @computation vars source e' hs hc =>
      cases he
      rw [hr] at hc
      exact (Graph.admits_expression hi hs).evaluate vars e hc
  | @value vars text e' ht hc =>
      cases he
      rw [hr] at hc
      exact (Graph.admits_text hi ht).render vars e hc
  | @text vars text e' ht hc =>
      cases he
      rw [hr] at hc
      exact (Graph.admits_text hi ht).renderText vars e hc
  | @unreadable vars text e' ht hc =>
      cases he
      rw [hr] at hc
      exact (Graph.admits_text hi ht).render vars e hc
  | role | user | directory | notifier => cases he

theorem Fault.late {f : Failure} (h : s.Fault f) : ∀ e, f.cause.error? = some e → e.Late := by
  obtain ⟨item, hi, _, harises⟩ := h
  exact harises.late hr hi

end Rules

/-! ### All failures -/

/-- Each failure that was recorded between two logs is that of an item of the workflow, or of the
limit, and an expression or a template that failed has failed late. -/
def LateFailures (s : Scene) (log log' : FailureLog) : Prop :=
  ∃ fs, log' = log.recordAll s.moment.now fs ∧
    ∀ f ∈ fs, (s.Fault f ∨ f.cause = .limit s.engine.settings.maxHops) ∧
      ∀ e, f.cause.error? = some e → e.Late

section Rules

variable (hr : s.engine.rules = s.graph.rules)

include hr

theorem Records.late (h : s.Records p q) : s.LateFailures p.world.log q.world.log := by
  obtain ⟨fs, hn, hfs⟩ := h
  exact ⟨fs, hn.log, fun f hf => ⟨Or.inl (hfs f hf), (hfs f hf).late hr⟩⟩

theorem Accounts.late (h : s.Accounts p q) : s.LateFailures p.world.log q.world.log := by
  obtain ⟨fs, tail, hn, hfs, hc⟩ := h
  refine ⟨fs ++ tail, hn.log, List.forall_mem_append.mpr ⟨?_, ?_⟩⟩
  · exact fun f hf => ⟨Or.inl (hfs f hf), (hfs f hf).late hr⟩
  · intro f hf
    cases hc with
    | inside => exact absurd hf List.not_mem_nil
    | limited =>
        obtain rfl := List.mem_singleton.mp hf
        exact ⟨Or.inr rfl, fun e he => by cases he⟩

theorem Accounted.late {reply : Reply Outcome} (h : s.Accounted p reply) :
    s.LateFailures p.world.log reply.world.log := by
  cases h with
  | refused hrecords => exact hrecords.late hr
  | finished haccounts => exact haccounts.late hr

theorem look_late {α : Type} {view : Variables → List Item → Pass → Pass × α}
    (hview : ∀ items, (∀ item ∈ items, item ∈ s.graph.workflow.items) → ∀ vars p,
      s.Records p (view vars items p).1) :
    s.LateFailures world.log (s.look record world view).world.log := by
  unfold look
  simp only
  split
  · exact (Records.refl (Pass.start record world)).late hr
  · next status hchecked =>
    exact (hview status.items (items_of_checked hchecked) _ (Pass.start record world)).late hr

end Rules

/-- **What loading has checked evaluates.**  An evaluator with the rules of the graph has a value or a
late error for every text of every item, whatever the variables are and whatever its caches hold.
And every failure that an operation or a view records is that of such an item or of the limit, so an
expression or a template that fails there fails late. -/
theorem texts_evaluate (s : Scene) (hr : s.engine.rules = s.graph.rules) :
    (∀ item ∈ s.graph.workflow.items, ∀ ev : Evaluator, ev.Reads s.engine.rules →
      ∀ vars : Variables, (∀ source ∈ item.expressions, ev.Answers vars source) ∧
        ∀ text ∈ item.texts, ev.Renders vars text) ∧
    ∀ (record : Record) (world : World),
      (∀ op, s.LateFailures world.log (s.operate op record world).world.log) ∧
      s.LateFailures world.log (s.surface record world).world.log ∧
      s.LateFailures world.log (s.messages record world).world.log := by
  refine ⟨fun item hi ev hev vars => ?_, fun record world => ⟨fun op => ?_, ?_, ?_⟩⟩
  · rw [hr] at hev
    have hexpressions : ∀ source ∈ item.expressions, ev.Answers vars source :=
      fun source hs => hev.answers (Graph.admits_expression hi hs) vars
    exact ⟨hexpressions, fun text ht => hev.renders (Graph.admits_text hi ht) vars⟩
  · exact (s.operate_accounted op record world).late hr
  · exact look_late hr fun items hi vars p => surfaceItems_records hi vars p
  · exact look_late hr fun items hi vars p => shownMessages_records hi vars p

end Scene

/-! ### A condition on data that is missing -/

namespace Sample

/-- A request that is refused above a limit, if it names an amount. -/
def priced : Workflow where
  id := "request"
  name := "Request"
  initial := "draft"
  statuses := [
    ⟨"draft", "Draft", [⟨"refuse", some "amount > 100", none, .jump ⟨"closed", false, .immediate⟩⟩],
      false⟩,
    ⟨"closed", "Closed", [], true⟩]
  functions := ∅
  globalActions := []

theorem priced_check : priced.check .default = .ok () := by decide +kernel

/-- The scene in which nobody acts on a request that may name an amount. -/
def pricing : Scene :=
  ⟨.ofSettings .default .accepting, ⟨.default, priced, priced_check⟩, ⟨none, .automatic, now, ∅⟩⟩

end Sample

namespace Scene

/-- The request names no amount: its condition fails, and the failure is late. -/
theorem texts_evaluate_sample :
    Sample.pricing.engine.rules = Sample.pricing.graph.rules ∧
    (Sample.pricing.operate .run Sample.record Sample.world).answer =
      .ok ⟨"draft", .waiting, 0, 1, []⟩ ∧
    Sample.pricing.LateFailures .empty
      (Sample.pricing.operate .run Sample.record Sample.world).world.log := by
  have hanswer : (Sample.pricing.operate .run Sample.record Sample.world).answer =
      .ok ⟨"draft", .waiting, 0, 1, []⟩ := by decide +kernel
  have hlate := (texts_evaluate Sample.pricing rfl).2 Sample.record Sample.world
  exact ⟨rfl, hanswer, hlate.1 .run⟩

end Scene
end Docket
