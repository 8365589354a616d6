import Docket.Proofs.Expression.Transparency
import Docket.Proofs.Graph.Texts

/-! # What loading decides

The check of a workflow is a program that stops at the first rule that is broken.  `Workflow.Lawful`
lists the rules themselves, in terms of what an evaluator reads, and has no order.

* `Item.check_eq_ok_iff` opens the check of an item in both directions, one case for each action.
* `Expression.Evaluator.Reads.accepts_iff` says that it does not matter what the evaluator has read
  before it is asked about the texts of a workflow.
* `Graph.status?_eq` says that the index of a graph answers as a scan of the statuses.  It would
  answer with the last of several statuses of one identifier, and a scan with the first; only one is
  left by the checks. -/

namespace Docket

open Expression (Evaluator Query Rules)

/-! ### Texts that an evaluator reads -/

namespace Expression.Evaluator

variable {rules : Rules} {ev : Evaluator}

/-- The evaluator reads the source. -/
def Accepts (ev : Evaluator) (source : String) : Prop := ∃ entry, (ev.validate source).1 = .ok entry

/-- The evaluator reads the text, if it has marks of a template. -/
def AcceptsText (ev : Evaluator) (text : String) : Prop :=
  isTemplate text = true → ∃ entry, (ev.compileTemplate text).1 = .ok entry

theorem exists_ok_map {ε α β : Type} {r : Except ε α} {f : α → β} :
    (∃ b, r.map f = .ok b) ↔ ∃ a, r = .ok a := by
  cases r with
  | error e => simp [Except.map]
  | ok a => simp [Except.map]

/-- **An evaluator reads the sources that its rules admit**, whatever it has read before. -/
theorem Reads.accepts_iff (h : ev.Reads rules) (source : String) :
    ev.Accepts source ↔ rules.Admits source := by
  unfold Accepts Rules.Admits
  rw [← (validate_reads h source).1, exists_ok_map]

theorem Reads.acceptsText_iff (h : ev.Reads rules) (text : String) :
    ev.AcceptsText text ↔ rules.AdmitsText text := by
  unfold AcceptsText Rules.AdmitsText
  rw [← (compileTemplate_reads h text).1, exists_ok_map]

end Expression.Evaluator

/-! ### Items -/

namespace Item

variable {rules : Rules} {ev : Evaluator} {statuses : List String} {item : Item}

/-- What the rules for loading ask of an item, where the statuses of its workflow are given. -/
structure Lawful (ev : Evaluator) (statuses : List String) (item : Item) : Prop where
  target : ∀ target mark, item.route? = some (target, mark) → target = previous ∨ target ∈ statuses
  dispatch : ∀ dispatch, item.action = .dispatch dispatch →
    dispatch.source.isSome = true ∨ dispatch.spec.isSome = true
  expressions : ∀ source ∈ item.expressions, ev.Accepts source
  texts : ∀ text ∈ item.texts, ev.AcceptsText text

theorem dispatch_of_check {dispatch : Dispatch} (h : item.check rules statuses = .ok ())
    (ha : item.action = .dispatch dispatch) :
    dispatch.source.isSome = true ∨ dispatch.spec.isSome = true := by
  obtain ⟨_, _, haction⟩ := bind_eq_ok.mp h
  unfold checkAction at haction
  simp only [ha] at haction
  split at haction
  · cases haction
  · next hnone =>
    cases hs : dispatch.source with
    | some source => exact .inl rfl
    | none =>
        rw [hs] at hnone
        exact .inr (Option.isSome_iff_ne_none.mpr (by simpa using hnone))

theorem checkAction_eq_ok
    (htarget : ∀ target mark, item.route? = some (target, mark) →
      target = previous ∨ target ∈ statuses)
    (hdispatch : ∀ dispatch, item.action = .dispatch dispatch →
      dispatch.source.isSome = true ∨ dispatch.spec.isSome = true)
    (hexpressions : ∀ source ∈ item.expressions, rules.Admits source)
    (htexts : ∀ text ∈ item.texts, rules.AdmitsText text) :
    item.checkAction rules statuses = .ok () := by
  unfold checkAction
  unfold texts at htexts
  cases ha : item.action with
  | jump jump => exact checkTarget_eq_ok.mpr (htarget _ _ (route?_jump ha))
  | choice choice => exact checkTarget_eq_ok.mpr (htarget _ _ (route?_choice ha))
  | edit edit =>
      refine checkSome_eq_ok.mpr fun target ht => checkTarget_eq_ok.mpr ?_
      exact htarget _ _ (route?_edit ha (Option.mem_toList.mp ht))
  | dispatch dispatch =>
      simp only [ha, List.forall_mem_append, List.forall_mem_map] at htexts
      have hcomplete : ¬(dispatch.source.isNone && dispatch.spec.isNone) = true := by
        rcases hdispatch dispatch ha with h | h <;> simp [Option.isSome_iff_ne_none.mp h]
      simp only
      rw [if_neg hcomplete]
      refine bind_eq_ok.mpr ⟨(), checkSome_eq_ok.mpr fun source hs => ?_, ?_⟩
      · exact checkExpression_eq_ok.mpr
          (hexpressions source (source_mem_expressions ha (Option.mem_toList.mp hs)))
      refine bind_eq_ok.mpr ⟨(), checkSome_eq_ok.mpr fun spec hs => ?_, ?_⟩
      · exact checkTemplate_eq_ok.mpr (htexts.1 spec hs)
      · exact checkEach_eq_ok.mpr fun rule hr => checkTemplate_eq_ok.mpr (htexts.2 rule hr)
  | message message =>
      simp only [ha, List.forall_mem_singleton] at htexts
      exact checkTemplate_eq_ok.mpr htexts
  | notify notification =>
      simp only [ha, List.forall_mem_cons] at htexts
      exact bind_eq_ok.mpr
        ⟨(), checkTemplate_eq_ok.mpr htexts.1, checkTemplate_eq_ok.mpr htexts.2.1⟩
  | changeRole operation change =>
      simp only [ha, List.forall_mem_singleton] at htexts
      exact checkTemplate_eq_ok.mpr htexts

/-- **The check of an item succeeds exactly on the lawful ones.** -/
theorem check_eq_ok_iff (hev : ev.Reads rules) :
    item.check rules statuses = .ok () ↔ item.Lawful ev statuses := by
  constructor
  · intro h
    obtain ⟨hexpressions, htexts⟩ := admits_of_check h
    exact
      { target := fun _ _ hr => target_of_check h hr
        dispatch := fun _ ha => dispatch_of_check h ha
        expressions := fun source hs => (hev.accepts_iff source).mpr (hexpressions source hs)
        texts := fun text ht => (hev.acceptsText_iff text).mpr (htexts text ht) }
  · intro h
    have hexpressions : ∀ source ∈ item.expressions, rules.Admits source :=
      fun source hs => (hev.accepts_iff source).mp (h.expressions source hs)
    have hcondition : checkSome (item.checkExpression rules .condition) item.condition = .ok () :=
      checkSome_eq_ok.mpr fun source hs => checkExpression_eq_ok.mpr
        (hexpressions source (condition_mem_expressions (Option.mem_toList.mp hs)))
    refine bind_eq_ok.mpr ⟨(), hcondition, checkAction_eq_ok h.target h.dispatch hexpressions ?_⟩
    exact fun text ht => (hev.acceptsText_iff text).mp (h.texts text ht)

end Item

/-! ### The index of a graph -/

theorem find?_key_eq_some {α κ : Type} [DecidableEq κ] {key : α → κ} {l : List α}
    (hl : (l.map key).Nodup) {k : κ} {a : α} :
    (l.find? fun b => key b = k) = some a ↔ a ∈ l ∧ key a = k := by
  constructor
  · intro h
    exact ⟨List.mem_of_find?_eq_some h, by simpa using List.find?_some h⟩
  · rintro ⟨ha, rfl⟩
    obtain ⟨b, hb⟩ : ∃ b, (l.find? fun b => key b = key a) = some b := by
      rw [← Option.isSome_iff_exists, List.find?_isSome]
      exact ⟨a, ha, by simp⟩
    have hmem : b ∈ l := List.mem_of_find?_eq_some hb
    have hkey : key b = key a := by simpa using List.find?_some hb
    rw [hb, List.inj_on_of_nodup_map hl hmem ha hkey]

namespace Keyed

variable {α κ : Type} [LT κ] [LE κ] [Std.IsLinearOrder κ] [Std.LawfulOrderLT κ] [DecidableLT κ]
  [DecidableEq κ] {key : α → κ}

theorem get?_ofList_of_nodup {l : List α} (hl : (l.map key).Nodup) (k : κ) :
    (ofList l : Keyed key).get? k = l.find? fun a => key a = k := by
  have hreverse : (l.reverse.map key).Nodup := by
    rw [List.map_reverse]
    exact List.nodup_reverse.mpr hl
  ext a
  rw [get?_ofList, find?_key_eq_some hreverse, find?_key_eq_some hl, List.mem_reverse]

end Keyed

/-- **The index of a graph answers as a scan of the statuses.** -/
theorem Graph.status?_eq (g : Graph) (id : String) : g.status? id = g.workflow.status? id :=
  Keyed.get?_ofList_of_nodup g.admitted.statuses_nodup id

/-! ### Workflows -/

namespace Workflow

variable {rules : Rules} {ev : Evaluator} {w : Workflow}

/-- What the rules for loading ask of a workflow. -/
structure Lawful (ev : Evaluator) (w : Workflow) : Prop where
  statuses_nodup : (w.statuses.map Status.id).Nodup
  items_nodup : (w.items.map Item.id).Nodup
  actions_nodup : (w.globalActions.map GlobalAction.id).Nodup
  initial_mem : w.initial ∈ w.statuses.map Status.id
  items : ∀ item ∈ w.items, item.Lawful ev (w.statuses.map Status.id)

theorem check_eq_ok_iff_lawful (hev : ev.Reads rules) : w.check rules = .ok () ↔ w.Lawful ev := by
  rw [check_eq_ok_iff]
  constructor
  · rintro ⟨hs, hi, ha, hinit, hitems⟩
    exact ⟨hs, hi, ha, hinit, fun item hm => (Item.check_eq_ok_iff hev).mp (hitems item hm)⟩
  · rintro ⟨hs, hi, ha, hinit, hitems⟩
    exact ⟨hs, hi, ha, hinit, fun item hm => (Item.check_eq_ok_iff hev).mpr (hitems item hm)⟩

theorem exists_ofWorkflow_iff :
    (∃ g, Graph.ofWorkflow rules w = .ok g) ↔ w.check rules = .ok () := by
  constructor
  · rintro ⟨g, h⟩
    obtain ⟨rfl, rfl⟩ := Graph.ofWorkflow_eq_ok_iff.mp h
    exact g.checked
  · intro hc
    exact ⟨⟨rules, w, hc⟩, Graph.ofWorkflow_eq_ok_iff.mpr ⟨rfl, rfl⟩⟩

/-- **Loading decides its rules.**  The checks succeed exactly on the workflows that keep all rules,
for an evaluator with any capacity and any history of queries, and on these alone there is a graph.
The graph has the workflow itself, and looks a status up as a scan of the workflow's statuses does. -/
theorem load_decided (rules : Rules) (capacity : ℕ) (queries : List Query) (w : Workflow) :
    let ev := (Evaluator.ofRules rules capacity).after queries
    (w.check rules = .ok () ↔ w.Lawful ev) ∧
    ((∃ g, Graph.ofWorkflow rules w = .ok g) ↔ w.Lawful ev) ∧
    ∀ g, Graph.ofWorkflow rules w = .ok g →
      g.workflow = w ∧ ∀ id, g.status? id = w.status? id := by
  intro ev
  have hev : ev.Reads rules := Evaluator.after_reads (Evaluator.ofRules_reads rules capacity) queries
  refine ⟨check_eq_ok_iff_lawful hev, ?_, fun g hg => ?_⟩
  · rw [exists_ofWorkflow_iff, check_eq_ok_iff_lawful hev]
  · obtain ⟨rfl, -⟩ := Graph.ofWorkflow_eq_ok_iff.mp hg
    exact ⟨rfl, g.status?_eq⟩

end Workflow

/-! ### A sample -/

namespace Sample

/-- A workflow whose only item routes the roles of a specification to its reviewers. -/
def triage (spec : Option String) : Workflow where
  id := "review"
  name := "Review"
  initial := "open"
  statuses := [
    ⟨"open", "Open", [⟨"route", none, none, .dispatch ⟨"reviewers", .set, spec, none, []⟩⟩], false⟩,
    ⟨"done", "Done", [], true⟩]
  functions := ∅
  globalActions := []

end Sample

/-- With a template as the specification the workflow is loaded, and its statuses are found.  Without
one there is nothing to route, and it breaks a rule. -/
theorem Workflow.load_decided_sample :
    (∃ g, Graph.ofWorkflow .default (Sample.triage (some "{{ owner }}")) = .ok g ∧
      (g.status? "done").map Status.isEndpoint = some true) ∧
    ¬(Sample.triage none).Lawful (Evaluator.ofRules .default 0) := by
  constructor
  · obtain ⟨hcheck, hgraph, hstatus⟩ :=
      load_decided .default 0 [] (Sample.triage (some "{{ owner }}"))
    obtain ⟨g, hg⟩ := hgraph.mpr (hcheck.mp (by decide +kernel))
    refine ⟨g, hg, ?_⟩
    rw [(hstatus g hg).2]
    rfl
  · intro h
    have hcheck := (load_decided .default 0 [] (Sample.triage none)).1.mpr h
    have hbroken : ((Sample.triage none).check .default).toOption = none := by decide +kernel
    rw [hcheck] at hbroken
    cases hbroken

end Docket
