import Docket.Expression.Rules

/-! # Expressions see what they mention

The value of an expression depends on the variables that it names and on the functions that it
calls, and on nothing else (`eval_congr`).  A source that was compiled names only variables that the
catalogue admits.  So two assignments that are alike to the catalogue (`Catalogue.Alike`) give every
source and every template under the rules the same value or the same error. -/

namespace Docket

/-! ### Steps one after the other -/

section Steps

variable {ε α β : Type}

theorem ok_bind (a : α) (f : α → Except ε β) : (Except.ok a >>= f) = f a := rfl

theorem error_bind (e : ε) (f : α → Except ε β) :
    ((Except.error e : Except ε α) >>= f) = .error e := rfl

theorem bind_eq_ok {x : Except ε α} {f : α → Except ε β} {b : β} :
    (x >>= f) = .ok b ↔ ∃ a, x = .ok a ∧ f a = .ok b := by
  cases x with
  | error e =>
      constructor
      · intro h; cases h
      · rintro ⟨a, h, _⟩; cases h
  | ok a =>
      constructor
      · intro h; exact ⟨a, rfl, h⟩
      · rintro ⟨a', h, hf⟩; cases h; exact hf

end Steps

namespace Expression

variable {vars vars' : Variables} {functions functions' : Functions} {rules : Rules}

/-! ### Trees -/

theorem valueOf_congr {n : String} (h : vars' n = vars n) : valueOf vars' n = valueOf vars n := by
  unfold valueOf; rw [h]

theorem argumentValues_congr : ∀ arguments : List Argument,
    (∀ n ∈ argumentNames arguments, vars' n = vars n) →
    argumentValues vars' arguments = argumentValues vars arguments
  | [], _ => rfl
  | .literal v :: rest, h => by
      unfold argumentValues
      rw [argumentValues_congr rest h]
  | .name n :: rest, h => by
      obtain ⟨hn, hrest⟩ := List.forall_mem_cons.mp h
      unfold argumentValues
      rw [valueOf_congr hn, argumentValues_congr rest hrest]

mutual

/-- **An expression depends on what it mentions.**  Assignments that agree on its variables and
registries that agree on its functions give it the same value or the same error. -/
theorem eval_congr : ∀ e : Expression, (∀ n ∈ e.names, vars' n = vars n) →
    (∀ f ∈ e.calls, functions' f = functions f) → e.eval vars' functions' = e.eval vars functions
  | .literal v, _, _ => by unfold eval; rfl
  | .name n _, hn, _ => by
      unfold eval
      exact valueOf_congr (hn n (List.mem_singleton_self n))
  | .subscript target key, hn, hf => by
      unfold eval
      rw [eval_congr target hn hf]
  | .call function arguments _, hn, hf => by
      unfold eval
      rw [hf function (List.mem_singleton_self function), argumentValues_congr arguments hn]
  | .not e, hn, hf => by
      unfold eval
      rw [eval_congr e hn hf]
  | .negative e, hn, hf => by
      unfold eval
      rw [eval_congr e hn hf]
  | .positive e, hn, hf => by
      unfold eval
      rw [eval_congr e hn hf]
  | .all es, hn, hf => by
      unfold eval
      exact evalAll_congr es _ hn hf
  | .any es, hn, hf => by
      unfold eval
      exact evalAny_congr es _ hn hf
  | .compare first rest, hn, hf => by
      obtain ⟨hn₁, hn₂⟩ := List.forall_mem_append.mp hn
      obtain ⟨hf₁, hf₂⟩ := List.forall_mem_append.mp hf
      unfold eval
      rw [eval_congr first hn₁ hf₁]
      refine bind_congr fun v => ?_
      exact evalRest_congr rest v hn₂ hf₂
  | .choose c t e, hn, hf => by
      obtain ⟨hn, hne⟩ := List.forall_mem_append.mp hn
      obtain ⟨hnc, hnt⟩ := List.forall_mem_append.mp hn
      obtain ⟨hf, hfe⟩ := List.forall_mem_append.mp hf
      obtain ⟨hfc, hft⟩ := List.forall_mem_append.mp hf
      unfold eval
      rw [eval_congr c hnc hfc, eval_congr t hnt hft, eval_congr e hne hfe]

theorem evalAll_congr : ∀ (es : List Expression) (last : Json),
    (∀ n ∈ namesAll es, vars' n = vars n) → (∀ f ∈ callsAll es, functions' f = functions f) →
    evalAll vars' functions' last es = evalAll vars functions last es
  | [], _, _, _ => by unfold evalAll; rfl
  | e :: es, last, hn, hf => by
      obtain ⟨hn₁, hn₂⟩ := List.forall_mem_append.mp hn
      obtain ⟨hf₁, hf₂⟩ := List.forall_mem_append.mp hf
      unfold evalAll
      rw [eval_congr e hn₁ hf₁]
      refine bind_congr fun v => ?_
      rw [evalAll_congr es v hn₂ hf₂]

theorem evalAny_congr : ∀ (es : List Expression) (last : Json),
    (∀ n ∈ namesAll es, vars' n = vars n) → (∀ f ∈ callsAll es, functions' f = functions f) →
    evalAny vars' functions' last es = evalAny vars functions last es
  | [], _, _, _ => by unfold evalAny; rfl
  | e :: es, last, hn, hf => by
      obtain ⟨hn₁, hn₂⟩ := List.forall_mem_append.mp hn
      obtain ⟨hf₁, hf₂⟩ := List.forall_mem_append.mp hf
      unfold evalAny
      rw [eval_congr e hn₁ hf₁]
      refine bind_congr fun v => ?_
      rw [evalAny_congr es v hn₂ hf₂]

theorem evalRest_congr : ∀ (es : List (Relation × Expression)) (left : Json),
    (∀ n ∈ namesRest es, vars' n = vars n) → (∀ f ∈ callsRest es, functions' f = functions f) →
    evalRest vars' functions' left es = evalRest vars functions left es
  | [], _, _, _ => by unfold evalRest; rfl
  | (r, e) :: es, left, hn, hf => by
      obtain ⟨hn₁, hn₂⟩ := List.forall_mem_append.mp hn
      obtain ⟨hf₁, hf₂⟩ := List.forall_mem_append.mp hf
      unfold evalRest
      rw [eval_congr e hn₁ hf₁]
      refine bind_congr fun right => bind_congr fun holds => ?_
      rw [evalRest_congr es right hn₂ hf₂]

end

/-! ### Sources -/

/-- Two assignments give the variables that a catalogue admits the same values. -/
def Catalogue.Alike (c : Catalogue) (vars vars' : Variables) : Prop :=
  ∀ n, c.admits n = true → vars' n = vars n

theorem Rules.names_of_check {e : Expression} (h : rules.check e = .ok ()) :
    ∀ n ∈ e.names, rules.catalogue.admits n = true := by
  intro n hn
  unfold Rules.check at h
  split at h
  · cases h
  · next hnone => simpa using List.find?_eq_none.mp hnone n hn

theorem Rules.names_of_compile {source : String} {e : Expression}
    (h : rules.compile source = .ok e) : ∀ n ∈ e.names, rules.catalogue.admits n = true := by
  unfold Rules.compile at h
  obtain ⟨tree, _, h⟩ := bind_eq_ok.mp h
  obtain ⟨⟨⟩, hc, h⟩ := bind_eq_ok.mp h
  cases h
  exact Rules.names_of_check hc

theorem eval_alike {e : Expression} (he : ∀ n ∈ e.names, rules.catalogue.admits n = true)
    (h : rules.catalogue.Alike vars vars') :
    e.eval vars' rules.functions = e.eval vars rules.functions :=
  eval_congr e (fun n hn => h n (he n hn)) fun _ _ => rfl

namespace Catalogue.Alike

variable (h : rules.catalogue.Alike vars vars')

include h

theorem evaluate (source : String) : rules.evaluate vars' source = rules.evaluate vars source := by
  unfold Rules.evaluate
  cases hc : rules.compile source with
  | error e => rfl
  | ok e => exact eval_alike (Rules.names_of_compile hc) h

theorem condition (source : String) :
    rules.condition vars' source = rules.condition vars source := by
  unfold Rules.condition; rw [h.evaluate]

end Catalogue.Alike

/-! ### Templates -/

/-- The variables that a piece of a template names. -/
def Part.names : Part → List String
  | .text _ => []
  | .expr _ e => e.names

theorem Rules.names_of_compileParts : ∀ {segments : List Segment} {parts : List Part},
    rules.compileParts segments = .ok parts →
    ∀ part ∈ parts, ∀ n ∈ part.names, rules.catalogue.admits n = true
  | [], _, h => by cases h; simp
  | .text t :: rest, _, h => by
      unfold Rules.compileParts at h
      obtain ⟨parts, hr, h⟩ := bind_eq_ok.mp h
      cases h
      exact List.forall_mem_cons.mpr ⟨by simp [Part.names], names_of_compileParts hr⟩
  | .placeholder source column :: rest, _, h => by
      unfold Rules.compileParts at h
      cases hc : rules.compile source with
      | error e => rw [hc] at h; cases h
      | ok tree =>
          rw [hc] at h
          obtain ⟨parts, hr, h⟩ := bind_eq_ok.mp h
          cases h
          exact List.forall_mem_cons.mpr ⟨Rules.names_of_compile hc, names_of_compileParts hr⟩

theorem Rules.names_of_compileTemplate {template : String} {parts : List Part}
    (h : rules.compileTemplate template = .ok parts) :
    ∀ part ∈ parts, ∀ n ∈ part.names, rules.catalogue.admits n = true := by
  unfold Rules.compileTemplate at h
  obtain ⟨segments, _, hs⟩ := bind_eq_ok.mp h
  exact Rules.names_of_compileParts hs

theorem mem_of_soleExpression {e : Expression} : ∀ {parts : List Part},
    soleExpression parts = some e → ∃ source, Part.expr source e ∈ parts
  | .text t :: rest, h => by
      unfold soleExpression at h
      split at h
      · obtain ⟨source, hs⟩ := mem_of_soleExpression h
        exact ⟨source, List.mem_cons_of_mem _ hs⟩
      · cases h
  | .expr source e' :: rest, h => by
      unfold soleExpression at h
      split at h
      · cases h; exact ⟨source, List.mem_cons_self⟩
      · cases h

section Alike

variable (h : rules.catalogue.Alike vars vars')

include h

theorem renderParts_alike : ∀ parts : List Part,
    (∀ part ∈ parts, ∀ n ∈ part.names, rules.catalogue.admits n = true) →
    renderParts vars' rules.functions parts = renderParts vars rules.functions parts
  | [], _ => rfl
  | .text t :: rest, hp => by
      unfold renderParts
      rw [renderParts_alike rest (List.forall_mem_cons.mp hp).2]
  | .expr source e :: rest, hp => by
      obtain ⟨he, hrest⟩ := List.forall_mem_cons.mp hp
      unfold renderParts
      rw [eval_alike he h, renderParts_alike rest hrest]

theorem renderTemplate_alike {parts : List Part}
    (hp : ∀ part ∈ parts, ∀ n ∈ part.names, rules.catalogue.admits n = true) :
    renderTemplate vars' rules.functions parts = renderTemplate vars rules.functions parts := by
  unfold renderTemplate
  split
  · next e he =>
    obtain ⟨source, hs⟩ := mem_of_soleExpression he
    exact eval_alike (hp _ hs) h
  · rw [renderParts_alike h parts hp]

end Alike

namespace Catalogue.Alike

variable (h : rules.catalogue.Alike vars vars')

include h

theorem render (text : String) : rules.render vars' text = rules.render vars text := by
  unfold Rules.render
  split
  · cases hc : rules.compileTemplate text with
    | error e => rfl
    | ok parts => exact renderTemplate_alike h (Rules.names_of_compileTemplate hc)
  · rfl

theorem renderText (text : String) : rules.renderText vars' text = rules.renderText vars text := by
  unfold Rules.renderText; rw [h.render]

end Catalogue.Alike
end Expression
end Docket
