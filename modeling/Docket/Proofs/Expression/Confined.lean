import Docket.Proofs.Expression.Mention

/-! # Evaluation is confined to what a tree mentions

The lists `names` and `calls` of a tree are what a check looks at before anything is evaluated, so they
have to list all that evaluation can reach.  Two things say that they do.  The value of a tree depends
on them only (`eval_congr`), and whatever goes wrong is about one of them, or an operation does not
take its values (`eval_fails`).

`Fails` says of an outcome that its error, if it is one, is of some sort.  `eval_fails` is the induction
over the tree, for any sort of errors, and `eval_confined` puts both sides together. -/

namespace Docket.Expression

variable {α β : Type} {P : Error → Prop} {vars : Variables} {functions : Functions}

/-! ### Sorts of errors -/

/-- If the outcome is an error, it is one of the sort `P`. -/
def Fails (P : Error → Prop) (r : Except Error α) : Prop := ∀ e, r = .error e → P e

namespace Fails

theorem ok (a : α) : Fails P (.ok a) := by
  intro e h
  cases h

theorem error {e : Error} (he : P e) : Fails P (.error e : Except Error α) := by
  intro e' h
  cases h
  exact he

theorem bind {x : Except Error α} {f : α → Except Error β} (hx : Fails P x)
    (hf : ∀ a, Fails P (f a)) : Fails P (x >>= f) := by
  intro e h
  cases x with
  | error e' =>
      cases h
      exact hx e rfl
  | ok a => exact hf a e h

theorem lift (hmisuse : ∀ m, P (.evaluation m)) (r : Except Misuse α) : Fails P (lift r) := by
  cases r with
  | error m => exact error (hmisuse m)
  | ok a => exact ok a

end Fails

/-! ### Trees -/

theorem valueOf_fails {n : String} (hn : vars n = none → P (.undefinedVariable n)) :
    Fails P (valueOf vars n) := by
  unfold valueOf
  split
  · exact .ok _
  · next h => exact .error (hn h)

theorem argumentValues_fails : ∀ arguments : List Argument,
    (∀ n ∈ argumentNames arguments, vars n = none → P (.undefinedVariable n)) →
    Fails P (argumentValues vars arguments)
  | [], _ => .ok []
  | .literal v :: rest, hn => by
      unfold argumentValues
      exact (argumentValues_fails rest hn).bind fun vs => .ok (v :: vs)
  | .name n :: rest, hn => by
      obtain ⟨hname, hrest⟩ := List.forall_mem_cons.mp hn
      unfold argumentValues
      refine (valueOf_fails hname).bind fun v => ?_
      exact (argumentValues_fails rest hrest).bind fun vs => .ok (v :: vs)

mutual

/-- **What goes wrong with a tree is about something that it mentions**: a variable of it has no value,
a function of it is not registered, or an operation does not take its values. -/
theorem eval_fails (hmisuse : ∀ m, P (.evaluation m)) : ∀ e : Expression,
    (∀ n ∈ e.names, vars n = none → P (.undefinedVariable n)) →
    (∀ f ∈ e.calls, functions f = none → P (.unknownFunction f)) →
    Fails P (e.eval vars functions)
  | .literal v, _, _ => by unfold eval; exact .ok v
  | .name n _, hn, _ => by
      unfold eval
      exact valueOf_fails (hn n (List.mem_singleton_self n))
  | .subscript target key, hn, hf => by
      unfold eval
      exact (eval_fails hmisuse target hn hf).bind fun t => .lift hmisuse (t.item key)
  | .call function arguments _, hn, hf => by
      unfold eval
      split
      · next h => exact .error (hf function (List.mem_singleton_self function) h)
      · next f _ =>
        refine (argumentValues_fails arguments hn).bind fun vs => ?_
        split
        · exact .ok _
        · next message _ => exact .error (hmisuse (.call function message))
  | .not e, hn, hf => by
      unfold eval
      exact (eval_fails hmisuse e hn hf).bind fun v => .ok _
  | .negative e, hn, hf => by
      unfold eval
      exact (eval_fails hmisuse e hn hf).bind fun v => .lift hmisuse (negate v)
  | .positive e, hn, hf => by
      unfold eval
      exact (eval_fails hmisuse e hn hf).bind fun v => .lift hmisuse (affirm v)
  | .all es, hn, hf => by
      unfold eval
      exact evalAll_fails hmisuse es _ hn hf
  | .any es, hn, hf => by
      unfold eval
      exact evalAny_fails hmisuse es _ hn hf
  | .compare first rest, hn, hf => by
      obtain ⟨hn₁, hn₂⟩ := List.forall_mem_append.mp hn
      obtain ⟨hf₁, hf₂⟩ := List.forall_mem_append.mp hf
      unfold eval
      exact (eval_fails hmisuse first hn₁ hf₁).bind fun v => evalRest_fails hmisuse rest v hn₂ hf₂
  | .choose c t e, hn, hf => by
      obtain ⟨hn, hne⟩ := List.forall_mem_append.mp hn
      obtain ⟨hnc, hnt⟩ := List.forall_mem_append.mp hn
      obtain ⟨hf, hfe⟩ := List.forall_mem_append.mp hf
      obtain ⟨hfc, hft⟩ := List.forall_mem_append.mp hf
      unfold eval
      refine (eval_fails hmisuse c hnc hfc).bind fun v => ?_
      split
      · exact eval_fails hmisuse t hnt hft
      · exact eval_fails hmisuse e hne hfe

theorem evalAll_fails (hmisuse : ∀ m, P (.evaluation m)) : ∀ (es : List Expression) (last : Json),
    (∀ n ∈ namesAll es, vars n = none → P (.undefinedVariable n)) →
    (∀ f ∈ callsAll es, functions f = none → P (.unknownFunction f)) →
    Fails P (evalAll vars functions last es)
  | [], last, _, _ => by unfold evalAll; exact .ok last
  | e :: es, _, hn, hf => by
      obtain ⟨hn₁, hn₂⟩ := List.forall_mem_append.mp hn
      obtain ⟨hf₁, hf₂⟩ := List.forall_mem_append.mp hf
      unfold evalAll
      refine (eval_fails hmisuse e hn₁ hf₁).bind fun v => ?_
      split
      · exact evalAll_fails hmisuse es v hn₂ hf₂
      · exact .ok v

theorem evalAny_fails (hmisuse : ∀ m, P (.evaluation m)) : ∀ (es : List Expression) (last : Json),
    (∀ n ∈ namesAll es, vars n = none → P (.undefinedVariable n)) →
    (∀ f ∈ callsAll es, functions f = none → P (.unknownFunction f)) →
    Fails P (evalAny vars functions last es)
  | [], last, _, _ => by unfold evalAny; exact .ok last
  | e :: es, _, hn, hf => by
      obtain ⟨hn₁, hn₂⟩ := List.forall_mem_append.mp hn
      obtain ⟨hf₁, hf₂⟩ := List.forall_mem_append.mp hf
      unfold evalAny
      refine (eval_fails hmisuse e hn₁ hf₁).bind fun v => ?_
      split
      · exact .ok v
      · exact evalAny_fails hmisuse es v hn₂ hf₂

theorem evalRest_fails (hmisuse : ∀ m, P (.evaluation m)) :
    ∀ (es : List (Relation × Expression)) (left : Json),
    (∀ n ∈ namesRest es, vars n = none → P (.undefinedVariable n)) →
    (∀ f ∈ callsRest es, functions f = none → P (.unknownFunction f)) →
    Fails P (evalRest vars functions left es)
  | [], _, _, _ => by unfold evalRest; exact .ok _
  | (r, e) :: es, left, hn, hf => by
      obtain ⟨hn₁, hn₂⟩ := List.forall_mem_append.mp hn
      obtain ⟨hf₁, hf₂⟩ := List.forall_mem_append.mp hf
      unfold evalRest
      refine (eval_fails hmisuse e hn₁ hf₁).bind fun right => ?_
      refine (Fails.lift hmisuse (r.holds left right)).bind fun holds => ?_
      split
      · exact evalRest_fails hmisuse es right hn₂ hf₂
      · exact .ok _

end

/-! ### Variables and functions of a tree -/

theorem Functions.ne_none_of_has {f : String} (h : functions.has f = true) : functions f ≠ none :=
  Option.isSome_iff_ne_none.mp h

/-- The error is about one of the listed variables, which has no value, or about one of the listed
functions, which is not registered, or it is a misuse of values. -/
inductive Error.About (vars : Variables) (functions : Functions) (names calls : List String) :
    Error → Prop
  | unset {n : String} : n ∈ names → vars n = none →
      About vars functions names calls (.undefinedVariable n)
  | unregistered {f : String} : f ∈ calls → functions f = none →
      About vars functions names calls (.unknownFunction f)
  | misuse (m : Misuse) : About vars functions names calls (.evaluation m)

theorem eval_about (e : Expression) (vars : Variables) (functions : Functions) :
    Fails (Error.About vars functions e.names e.calls) (e.eval vars functions) :=
  eval_fails .misuse e (fun _ => .unset) fun _ => .unregistered

/-- **A tree reaches nothing but what it mentions.**  Assignments that agree on its variables and
registries that agree on its functions give it the same value or the same error.  A variable that
turns out to have no value is one of its variables, and a function that turns out not to be registered
is one of its functions.  So where its variables have values and its functions are registered, all that
goes wrong is that an operation does not take its values. -/
theorem eval_confined (e : Expression) :
    (∀ (vars vars' : Variables) (functions functions' : Functions),
      (∀ n ∈ e.names, vars' n = vars n) → (∀ f ∈ e.calls, functions' f = functions f) →
      e.eval vars' functions' = e.eval vars functions) ∧
    (∀ vars functions n, e.eval vars functions = .error (.undefinedVariable n) →
      n ∈ e.names ∧ vars n = none) ∧
    (∀ vars functions f, e.eval vars functions = .error (.unknownFunction f) →
      f ∈ e.calls ∧ functions f = none) ∧
    ∀ vars functions, (∀ n ∈ e.names, ∃ v, vars n = some v) →
      (∀ f ∈ e.calls, functions.has f = true) →
      ∀ error, e.eval vars functions = .error error → ∃ misuse, error = .evaluation misuse := by
  refine ⟨fun _ _ _ _ hn hf => eval_congr e hn hf, fun vars functions n h => ?_,
    fun vars functions f h => ?_, fun vars functions hn hf error h => ?_⟩
  · cases e.eval_about vars functions _ h with
    | unset hmem hnone => exact ⟨hmem, hnone⟩
  · cases e.eval_about vars functions _ h with
    | unregistered hmem hnone => exact ⟨hmem, hnone⟩
  · cases e.eval_about vars functions _ h with
    | @unset n hmem hnone =>
        obtain ⟨v, hv⟩ := hn n hmem
        cases hnone.symm.trans hv
    | @unregistered f hmem hnone =>
        exact absurd hnone (Functions.ne_none_of_has (hf f hmem))
    | misuse m => exact ⟨m, rfl⟩

/-! ### A sample

A title that must not be empty, and an owner.  `str(title) and owner` reads nothing of the assignment
but these two. -/

namespace Sample

def titled : Expression := .all [.call "str" [.name "title"] 0, .name "owner" 15]

/-- The variables with a title, and with whatever else is given. -/
def setting (others : Variables) : Variables := fun n =>
  if n = "title" then some (.str "Leak") else others n

end Sample

/-- The sample depends on no variable but its two, an owner that has no value is reported as one of
them, and with an owner all is well. -/
theorem eval_confined_sample :
    Sample.titled.eval (Sample.setting fun n => if n = "secret" then some .null else none) .builtin =
      Sample.titled.eval (Sample.setting fun _ => none) .builtin ∧
    "owner" ∈ Sample.titled.names ∧
    ∀ error, Sample.titled.eval (Sample.setting fun _ => some .null) .builtin = .error error →
      ∃ misuse, error = .evaluation misuse := by
  obtain ⟨hsame, hunset, -, hlate⟩ := eval_confined Sample.titled
  have hnames : Sample.titled.names = ["title", "owner"] := rfl
  have hcalls : Sample.titled.calls = ["str"] := rfl
  refine ⟨hsame _ _ _ _ ?_ fun _ _ => rfl, ?_, hlate _ _ ?_ ?_⟩
  · rw [hnames]
    simp [Sample.setting]
  · exact (hunset (Sample.setting fun _ => none) .builtin "owner" (by rfl)).1
  · rw [hnames]
    simp [Sample.setting]
  · rw [hcalls]
    simp [Functions.has, Functions.builtin]

end Docket.Expression
