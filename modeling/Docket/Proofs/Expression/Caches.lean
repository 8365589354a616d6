import Docket.Expression.Evaluator
import Docket.Proofs.Expression.Mention
import Mathlib.Data.Nat.Notation

/-! # What the caches keep

An evaluator reads under rules (`Evaluator.Reads`) when every entry of its caches is what the rules
make of its source.  A fresh evaluator does, every call leaves one that does, and the answer of the
call is the answer of the rules.  The theorems `X_reads` say both at once for the call `X`.  So
evaluators with the same rules cannot be told apart by what they have read (`Reads.concur`). -/

namespace Docket.Expression

variable {α : Type} {read : String → Except Error α} {rules : Rules} {ev : Evaluator}

namespace Cache

/-- The entries of a cache are what is read in their sources. -/
def Honest (read : String → Except Error α) (cache : Cache α) : Prop :=
  ∀ entry ∈ cache.entries, read entry.source = .ok entry.value

theorem honest_empty (capacity : ℕ) : (empty capacity : Cache α).Honest read := by
  intro entry h
  cases h

theorem Honest.insert {cache : Cache α} {source : String} {value : α} (h : cache.Honest read)
    (hr : read source = .ok value) : (cache.insert source value).2.Honest read := by
  intro entry he
  unfold Cache.insert at he
  simp only at he
  rcases List.mem_cons.mp he with rfl | he
  · exact hr
  · split at he
    · cases he
    · exact h entry (List.mem_filter.mp he).1

theorem Honest.get? {cache : Cache α} {source : String} {entry : Entry α} (h : cache.Honest read)
    (hg : cache.get? source = some entry) : read source = .ok entry.value := by
  unfold Cache.get? at hg
  have hs : entry.source = source := by simpa using List.find?_some hg
  rw [← hs]
  exact h entry (List.mem_of_find?_eq_some hg)

end Cache

namespace Evaluator

/-- An evaluator has given rules, and its caches hold what the rules make of their sources. -/
structure Reads (rules : Rules) (ev : Evaluator) : Prop where
  rules_eq : ev.rules = rules
  expressions : ev.expressions.Honest rules.compile
  templates : ev.templates.Honest rules.compileTemplate

theorem ofRules_reads (rules : Rules) (capacity : ℕ) : (ofRules rules capacity).Reads rules :=
  ⟨rfl, Cache.honest_empty capacity, Cache.honest_empty capacity⟩

theorem validate_reads (h : ev.Reads rules) (source : String) :
    (ev.validate source).1.map Entry.value = rules.compile source ∧
      (ev.validate source).2.Reads rules := by
  unfold validate
  rw [h.rules_eq]
  split
  · next entry hg =>
    exact ⟨(h.expressions.get? hg).symm, h⟩
  · cases hc : rules.compile source with
    | error e => exact ⟨rfl, h⟩
    | ok tree =>
        refine ⟨rfl, ?_⟩
        exact ⟨rfl, h.expressions.insert hc, h.templates⟩

theorem compileParts_reads (segments : List Segment) (h : ev.Reads rules) :
    (ev.compileParts segments).1 = rules.compileParts segments ∧
      (ev.compileParts segments).2.Reads rules := by
  induction segments generalizing ev with
  | nil => exact ⟨rfl, h⟩
  | cons segment rest ih =>
      cases segment with
      | text t =>
          obtain ⟨heq, hnext⟩ := ih h
          unfold compileParts Rules.compileParts
          rw [← heq]
          rcases hc : ev.compileParts rest with ⟨e | parts, next⟩
          · rw [hc] at hnext
            exact ⟨rfl, hnext⟩
          · rw [hc] at hnext
            exact ⟨rfl, hnext⟩
      | placeholder source column =>
          obtain ⟨hv, hnext⟩ := validate_reads h source
          unfold compileParts Rules.compileParts
          rw [← hv]
          rcases hc : ev.validate source with ⟨e | entry, next⟩
          · rw [hc] at hnext
            exact ⟨rfl, hnext⟩
          · rw [hc] at hnext
            obtain ⟨heq, hlast⟩ := ih hnext
            simp only [Except.map]
            rw [← heq]
            rcases hp : next.compileParts rest with ⟨e | parts, last⟩
            · rw [hp] at hlast
              exact ⟨rfl, hlast⟩
            · rw [hp] at hlast
              exact ⟨rfl, hlast⟩

theorem compileTemplate_reads (h : ev.Reads rules) (template : String) :
    (ev.compileTemplate template).1.map Entry.value = rules.compileTemplate template ∧
      (ev.compileTemplate template).2.Reads rules := by
  unfold compileTemplate
  split
  · next entry hg =>
    exact ⟨(h.templates.get? hg).symm, h⟩
  · cases hs : splitTemplate template with
    | error e =>
        refine ⟨?_, h⟩
        unfold Rules.compileTemplate
        rw [hs]
        rfl
    | ok segments =>
        obtain ⟨heq, hnext⟩ := compileParts_reads segments h
        have hr : rules.compileTemplate template = (ev.compileParts segments).1 := by
          unfold Rules.compileTemplate
          rw [hs, ok_bind, heq]
        rw [hr]
        simp only
        rcases hc : ev.compileParts segments with ⟨e | parts, next⟩
        · rw [hc] at hnext
          exact ⟨rfl, hnext⟩
        · rw [hc] at hnext hr
          exact ⟨rfl, hnext.rules_eq, hnext.expressions, hnext.templates.insert hr⟩

theorem Reads.exists_entry (h : ev.Reads rules) {template : String} {parts : List Part}
    (hr : rules.compileTemplate template = .ok parts) :
    ∃ entry, (ev.compileTemplate template).1 = .ok entry := by
  have hv := (compileTemplate_reads h template).1
  rw [hr] at hv
  cases hc : (ev.compileTemplate template).1 with
  | error e =>
      rw [hc] at hv
      cases hv
  | ok entry => exact ⟨entry, rfl⟩

theorem Reads.refused (h : ev.Reads rules) {template : String} {e : Error}
    (hr : rules.compileTemplate template = .error e) :
    (ev.compileTemplate template).1 = .error e := by
  have hv := (compileTemplate_reads h template).1
  rw [hr] at hv
  cases hc : (ev.compileTemplate template).1 with
  | error e' =>
      rw [hc] at hv
      cases hv
      rfl
  | ok entry =>
      rw [hc] at hv
      cases hv

/-! ### Values -/

theorem evaluate_reads (h : ev.Reads rules) (vars : Variables) (source : String) :
    (ev.evaluate vars source).1 = rules.evaluate vars source ∧
      (ev.evaluate vars source).2.Reads rules := by
  obtain ⟨hv, hnext⟩ := validate_reads h source
  unfold evaluate Rules.evaluate
  rw [← hv]
  rcases hc : ev.validate source with ⟨e | entry, next⟩
  · rw [hc] at hnext
    exact ⟨rfl, hnext⟩
  · rw [hc] at hnext
    have hr : next.rules = rules := hnext.rules_eq
    refine ⟨?_, hnext⟩
    simp only [hr]
    rfl

theorem condition_reads (h : ev.Reads rules) (vars : Variables) (source : String) :
    (ev.condition vars source none).1 = rules.condition vars source ∧
      (ev.condition vars source none).2.Reads rules := by
  obtain ⟨hv, hnext⟩ := evaluate_reads h vars source
  unfold condition Rules.condition
  rw [← hv]
  rcases hc : ev.evaluate vars source with ⟨e | v, next⟩
  · rw [hc] at hnext
    exact ⟨rfl, hnext⟩
  · rw [hc] at hnext
    exact ⟨rfl, hnext⟩

theorem render_reads (h : ev.Reads rules) (vars : Variables) (text : String) :
    (ev.render vars text).1 = rules.render vars text ∧ (ev.render vars text).2.Reads rules := by
  unfold render Rules.render
  split
  · obtain ⟨hv, hnext⟩ := compileTemplate_reads h text
    rw [← hv]
    rcases hc : ev.compileTemplate text with ⟨e | entry, next⟩
    · rw [hc] at hnext
      exact ⟨rfl, hnext⟩
    · rw [hc] at hnext
      have hr : next.rules = rules := hnext.rules_eq
      refine ⟨?_, hnext⟩
      simp only [hr]
      rfl
  · exact ⟨rfl, h⟩

theorem renderText_reads (h : ev.Reads rules) (vars : Variables) (text : String) :
    (ev.renderText vars text).1 = rules.renderText vars text ∧
      (ev.renderText vars text).2.Reads rules := by
  obtain ⟨hv, hnext⟩ := render_reads h vars text
  unfold renderText Rules.renderText
  rw [← hv]
  rcases hc : ev.render vars text with ⟨e | v, next⟩
  · rw [hc] at hnext
    exact ⟨rfl, hnext⟩
  · rw [hc] at hnext
    exact ⟨rfl, hnext⟩

/-! ### Two evaluators -/

/-- Two evaluators say the same about a text. -/
structure Concur (ev ev' : Evaluator) (vars vars' : Variables) (text : String) : Prop where
  evaluate : (ev'.evaluate vars' text).1 = (ev.evaluate vars text).1
  condition : (ev'.condition vars' text none).1 = (ev.condition vars text none).1
  render : (ev'.render vars' text).1 = (ev.render vars text).1
  renderText : (ev'.renderText vars' text).1 = (ev.renderText vars text).1

/-- **Evaluators differ in nothing but their rules.**  Whatever two evaluators have read under the
same rules, they say the same about a text under alike variables. -/
theorem Reads.concur {ev' : Evaluator} {vars vars' : Variables} (h : ev.Reads rules)
    (h' : ev'.Reads rules) (hv : rules.catalogue.Alike vars vars') (text : String) :
    ev.Concur ev' vars vars' text where
  evaluate := by
    rw [(evaluate_reads h vars text).1, (evaluate_reads h' vars' text).1, hv.evaluate]
  condition := by
    rw [(condition_reads h vars text).1, (condition_reads h' vars' text).1, hv.condition]
  render := by
    rw [(render_reads h vars text).1, (render_reads h' vars' text).1, hv.render]
  renderText := by
    rw [(renderText_reads h vars text).1, (renderText_reads h' vars' text).1, hv.renderText]

end Evaluator
end Docket.Expression
