import Docket.Proofs.Expression.Caches
import Docket.Proofs.Expression.Confined

/-! # What was compiled evaluates

Reading a source finds everything that can be wrong with it before any value is known.  After that
only two things go wrong: a variable has no value, or an operation is given values that it does not
take.  These are the late errors (`Error.Late`), and `Evaluates` says of an outcome that it is a
value or a late error.

* `eval_evaluates` says so of every tree whose calls are all registered.
* `Rules.Admits` and `Rules.AdmitsText` are what loading checks of a source and of a text that may be
  a template.  What they admit evaluates, with the rules and with every evaluator that reads under
  them, whatever its caches hold (`Evaluator.Reads.answers` and `Evaluator.Reads.renders`). -/

namespace Docket.Expression

variable {α β : Type} {vars : Variables} {functions : Functions} {rules : Rules}

/-! ### Late errors -/

/-- An error that arises only once the values are known. -/
inductive Error.Late : Error → Prop
  | undefinedVariable (name : String) : Late (.undefinedVariable name)
  | evaluation (misuse : Misuse) : Late (.evaluation misuse)

theorem Error.late_iff {e : Error} : e.Late ↔ e.isValidation = false := by
  constructor
  · rintro (_ | _) <;> rfl
  · intro h
    cases e with
    | undefinedVariable name => exact .undefinedVariable name
    | evaluation misuse => exact .evaluation misuse
    | _ => cases h

/-- The outcome is a value or a late error. -/
def Evaluates (r : Except Error α) : Prop := ∀ e, r = .error e → e.Late

namespace Evaluates

theorem ok (a : α) : Evaluates (.ok a) := Fails.ok a

theorem bind {x : Except Error α} {f : α → Except Error β} (hx : Evaluates x)
    (hf : ∀ a, Evaluates (f a)) : Evaluates (x >>= f) := Fails.bind hx hf

theorem map {x : Except Error α} (hx : Evaluates x) (f : α → β) : Evaluates (x.map f) := by
  intro e h
  cases x with
  | error e' =>
      cases h
      exact hx e rfl
  | ok a => cases h

end Evaluates

/-! ### Trees -/

/-- **A tree whose calls are registered has a value or a late error.** -/
theorem eval_evaluates (e : Expression) (hf : ∀ f ∈ e.calls, functions.has f = true) :
    Evaluates (e.eval vars functions) :=
  eval_fails .evaluation e (fun n _ _ => .undefinedVariable n) fun f hmem hnone =>
    absurd hnone (Functions.ne_none_of_has (hf f hmem))

/-! ### Templates -/

/-- The functions that a piece of a template calls. -/
def Part.calls : Part → List String
  | .text _ => []
  | .expr _ e => e.calls

theorem renderParts_evaluates : ∀ parts : List Part,
    (∀ part ∈ parts, ∀ f ∈ part.calls, functions.has f = true) →
    Evaluates (renderParts vars functions parts)
  | [], _ => .ok ""
  | .text t :: rest, h => by
      unfold renderParts
      refine (renderParts_evaluates rest (List.forall_mem_cons.mp h).2).bind fun s => ?_
      exact .ok (t ++ s)
  | .expr _ e :: rest, h => by
      obtain ⟨he, hrest⟩ := List.forall_mem_cons.mp h
      unfold renderParts
      refine (eval_evaluates e he).bind fun v => ?_
      exact (renderParts_evaluates rest hrest).bind fun s => .ok (v.text ++ s)

theorem renderTemplate_evaluates {parts : List Part}
    (h : ∀ part ∈ parts, ∀ f ∈ part.calls, functions.has f = true) :
    Evaluates (renderTemplate vars functions parts) := by
  unfold renderTemplate
  split
  · next e he =>
    obtain ⟨source, hs⟩ := mem_of_soleExpression he
    exact eval_evaluates e (h _ hs)
  · exact (renderParts_evaluates parts h).map Json.str

/-! ### Rules -/

namespace Rules

/-- The rules read the source. -/
def Admits (rules : Rules) (source : String) : Prop := ∃ e, rules.compile source = .ok e

/-- The rules read the text, if it has marks of a template. -/
def AdmitsText (rules : Rules) (text : String) : Prop :=
  isTemplate text = true → ∃ parts, rules.compileTemplate text = .ok parts

theorem calls_of_check {e : Expression} (h : rules.check e = .ok ()) :
    ∀ f ∈ e.calls, rules.functions.has f = true := by
  intro f hf
  unfold check at h
  split at h
  · cases h
  · split at h
    · cases h
    · next hnone => simpa using List.find?_eq_none.mp hnone f hf

theorem calls_of_compile {source : String} {e : Expression} (h : rules.compile source = .ok e) :
    ∀ f ∈ e.calls, rules.functions.has f = true := by
  unfold compile at h
  obtain ⟨tree, _, h⟩ := bind_eq_ok.mp h
  obtain ⟨⟨⟩, hc, h⟩ := bind_eq_ok.mp h
  cases h
  exact calls_of_check hc

theorem calls_of_compileParts : ∀ {segments : List Segment} {parts : List Part},
    rules.compileParts segments = .ok parts →
    ∀ part ∈ parts, ∀ f ∈ part.calls, rules.functions.has f = true
  | [], _, h => by cases h; simp
  | .text t :: rest, _, h => by
      unfold compileParts at h
      obtain ⟨parts, hr, h⟩ := bind_eq_ok.mp h
      cases h
      exact List.forall_mem_cons.mpr ⟨by simp [Part.calls], calls_of_compileParts hr⟩
  | .placeholder source column :: rest, _, h => by
      unfold compileParts at h
      cases hc : rules.compile source with
      | error e => rw [hc] at h; cases h
      | ok tree =>
          rw [hc] at h
          obtain ⟨parts, hr, h⟩ := bind_eq_ok.mp h
          cases h
          exact List.forall_mem_cons.mpr ⟨calls_of_compile hc, calls_of_compileParts hr⟩

theorem calls_of_compileTemplate {template : String} {parts : List Part}
    (h : rules.compileTemplate template = .ok parts) :
    ∀ part ∈ parts, ∀ f ∈ part.calls, rules.functions.has f = true := by
  unfold compileTemplate at h
  obtain ⟨segments, _, hs⟩ := bind_eq_ok.mp h
  exact calls_of_compileParts hs

variable (vars)

theorem Admits.evaluate {source : String} (h : rules.Admits source) :
    Evaluates (rules.evaluate vars source) := by
  obtain ⟨e, he⟩ := h
  unfold Rules.evaluate
  rw [he, ok_bind]
  exact eval_evaluates e (calls_of_compile he)

theorem Admits.condition {source : String} (h : rules.Admits source) :
    Evaluates (rules.condition vars source) := by
  unfold Rules.condition
  exact (h.evaluate vars).bind fun v => .ok v.truthy

theorem AdmitsText.render {text : String} (h : rules.AdmitsText text) :
    Evaluates (rules.render vars text) := by
  unfold Rules.render
  split
  · next ht =>
    obtain ⟨parts, hp⟩ := h ht
    rw [hp, ok_bind]
    exact renderTemplate_evaluates (calls_of_compileTemplate hp)
  · exact .ok _

theorem AdmitsText.renderText {text : String} (h : rules.AdmitsText text) :
    Evaluates (rules.renderText vars text) := by
  unfold Rules.renderText
  exact (h.render vars).bind fun v => .ok v.text

end Rules

/-! ### Evaluators -/

namespace Evaluator

variable {ev : Evaluator}

/-- An evaluator has a value or a late error for a source, also as a condition. -/
structure Answers (ev : Evaluator) (vars : Variables) (source : String) : Prop where
  evaluate : Evaluates (ev.evaluate vars source).1
  condition : Evaluates (ev.condition vars source none).1

/-- An evaluator has a value or a late error for a text that may be a template. -/
structure Renders (ev : Evaluator) (vars : Variables) (text : String) : Prop where
  render : Evaluates (ev.render vars text).1
  renderText : Evaluates (ev.renderText vars text).1

/-- **What the rules admit is answered, whatever the caches hold.** -/
theorem Reads.answers {source : String} (h : ev.Reads rules) (hs : rules.Admits source)
    (vars : Variables) : ev.Answers vars source where
  evaluate := by
    rw [(evaluate_reads h vars source).1]
    exact hs.evaluate vars
  condition := by
    rw [(condition_reads h vars source).1]
    exact hs.condition vars

theorem Reads.renders {text : String} (h : ev.Reads rules) (ht : rules.AdmitsText text)
    (vars : Variables) : ev.Renders vars text where
  render := by
    rw [(render_reads h vars text).1]
    exact ht.render vars
  renderText := by
    rw [(renderText_reads h vars text).1]
    exact ht.renderText vars

end Evaluator
end Docket.Expression
