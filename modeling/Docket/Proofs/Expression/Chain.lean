import Docket.Proofs.Expression.Mention

/-! # A chain of comparisons

A chain compares neighbours: `a < b <= c` has the links `a < b` and `b <= c`.  It is evaluated once
from left to right, and the value of an operand is carried over to the next comparison.  The
conjunction of its links evaluates the inner operands twice, and it is the same truth or the same
error: `evalRest_eq_evalAll` is the induction, in which the carried value is the value of the
operand that the next link begins with.

`Reaches` says that evaluation comes to an operand, in terms of what can be observed: the operand's
error is the error of the whole.  `Ignores` says that the operand is of no account at all, and no
place of an expression can be both (`Reaches.not_ignores`).  A chain comes to an operand exactly if
the comparisons before it hold, and the conjunction of the links comes to the same operands. -/

namespace Docket.Expression

variable {vars : Variables} {functions : Functions}

/-- The comparisons between the neighbours of a chain. -/
def links : Expression → List (Relation × Expression) → List Expression
  | _, [] => []
  | e, (r, e') :: rest => .compare e [(r, e')] :: links e' rest

/-! ### The carried value -/

section Carried

variable {v w : Json} {e e' : Expression} {r : Relation} {error : Error}

theorem evalRest_cons_error (he : e'.eval vars functions = .error error)
    (rest : List (Relation × Expression)) :
    evalRest vars functions v ((r, e') :: rest) = .error error := by
  rw [evalRest, he]
  rfl

/-- One comparison: it holds, and the value of its right operand is carried over to the others, or it
settles the chain, whatever the others are. -/
theorem evalRest_step (vars : Variables) (functions : Functions) (v : Json) (r : Relation)
    (e' : Expression) :
    (∃ w, e'.eval vars functions = .ok w ∧
      ∀ rest, evalRest vars functions v ((r, e') :: rest) = evalRest vars functions w rest) ∨
    ∃ t : Except Error Bool, t ≠ .ok true ∧
      ∀ rest, evalRest vars functions v ((r, e') :: rest) = t.map .bool := by
  cases hw : e'.eval vars functions with
  | error error =>
      refine Or.inr ⟨.error error, fun h => (by cases h), fun rest => ?_⟩
      exact evalRest_cons_error hw rest
  | ok w =>
      have hcons : ∀ rest, evalRest vars functions v ((r, e') :: rest) =
          (lift (r.holds v w) >>= fun holds =>
            if holds then evalRest vars functions w rest else .ok (.bool false)) := by
        intro rest
        rw [evalRest, hw]
        rfl
      cases hholds : lift (r.holds v w) with
      | error error =>
          refine Or.inr ⟨.error error, fun h => (by cases h), fun rest => ?_⟩
          rw [hcons, hholds]
          rfl
      | ok holds =>
          cases holds with
          | false =>
              refine Or.inr ⟨.ok false, fun h => (by cases h), fun rest => ?_⟩
              rw [hcons, hholds]
              rfl
          | true =>
              refine Or.inl ⟨w, rfl, fun rest => ?_⟩
              rw [hcons, hholds]
              rfl

theorem eval_compare_of_ok (he : e.eval vars functions = .ok v)
    (rest : List (Relation × Expression)) :
    (Expression.compare e rest).eval vars functions = evalRest vars functions v rest := by
  rw [eval, he]
  rfl

theorem eval_compare_of_error (he : e.eval vars functions = .error error)
    (rest : List (Relation × Expression)) :
    (Expression.compare e rest).eval vars functions = .error error := by
  rw [eval, he]
  rfl

/-- **The links of a chain are its comparisons.** -/
theorem evalRest_eq_evalAll (rest : List (Relation × Expression))
    (he : e.eval vars functions = .ok v) :
    evalRest vars functions v rest = evalAll vars functions (.bool true) (links e rest) := by
  induction rest generalizing e v with
  | nil => rw [links, evalRest, evalAll]
  | cons link rest ih =>
      obtain ⟨r, e'⟩ := link
      rw [links, evalAll, eval_compare_of_ok he]
      rcases evalRest_step vars functions v r e' with ⟨w, hw, hcarried⟩ | ⟨t, ht, hsettled⟩
      · rw [hcarried, hcarried, evalRest, ok_bind, ih hw]
        rfl
      · rw [hsettled, hsettled]
        cases t with
        | error error => rfl
        | ok holds =>
            cases holds with
            | false => rfl
            | true => exact absurd rfl ht

theorem exists_truth_evalRest (v : Json) (rest : List (Relation × Expression)) :
    ∃ t : Except Error Bool, evalRest vars functions v rest = t.map .bool := by
  induction rest generalizing v with
  | nil => exact ⟨.ok true, by rw [evalRest]; rfl⟩
  | cons link rest ih =>
      obtain ⟨r, e'⟩ := link
      rcases evalRest_step vars functions v r e' with ⟨w, -, hcarried⟩ | ⟨t, -, hsettled⟩
      · rw [hcarried]
        exact ih w
      · exact ⟨t, hsettled rest⟩

/-- Either the comparisons of the first part hold, and the last value is carried over to the second
part, or the second part is of no account. -/
theorem evalRest_append (v : Json) (before : List (Relation × Expression)) :
    (evalRest vars functions v before = .ok (.bool true) ∧
      ∃ w, ∀ after, evalRest vars functions v (before ++ after) = evalRest vars functions w after) ∨
    (evalRest vars functions v before ≠ .ok (.bool true) ∧
      ∀ after, evalRest vars functions v (before ++ after) = evalRest vars functions v before) := by
  induction before generalizing v with
  | nil => exact Or.inl ⟨by rw [evalRest], v, fun after => rfl⟩
  | cons link before ih =>
      obtain ⟨r, e'⟩ := link
      rcases evalRest_step vars functions v r e' with ⟨w, -, hcarried⟩ | ⟨t, ht, hsettled⟩
      · simp only [List.cons_append, hcarried]
        exact ih w
      · simp only [List.cons_append, hsettled]
        refine Or.inr ⟨fun h => ht ?_, fun after => trivial⟩
        cases t with
        | error error => cases h
        | ok holds => cases h; rfl

end Carried

/-! ### Chains and conjunctions -/

section Chains

variable {rest : List (Relation × Expression)}

/-- **A chain is the conjunction of its links.** -/
theorem eval_chain (first : Expression) (h : rest ≠ []) :
    (Expression.compare first rest).eval vars functions =
      (Expression.all (links first rest)).eval vars functions := by
  have hall : (Expression.all (links first rest)).eval vars functions =
      evalAll vars functions (.bool true) (links first rest) := by rw [eval]
  rw [hall]
  cases hv : first.eval vars functions with
  | ok v => rw [eval_compare_of_ok hv, evalRest_eq_evalAll rest hv]
  | error error =>
      obtain ⟨⟨r, e⟩, rest, rfl⟩ := List.exists_cons_of_ne_nil h
      rw [links, evalAll, eval_compare_of_error hv, eval_compare_of_error hv, error_bind]

theorem exists_truth_compare (vars : Variables) (functions : Functions) (first : Expression)
    (rest : List (Relation × Expression)) :
    ∃ t : Except Error Bool, (Expression.compare first rest).eval vars functions = t.map .bool := by
  cases hv : first.eval vars functions with
  | error error => exact ⟨.error error, eval_compare_of_error hv rest⟩
  | ok v =>
      rw [eval_compare_of_ok hv]
      exact exists_truth_evalRest v rest

/-- Either the comparisons of the first part of a chain hold and the last value is carried over, or
what follows is of no account. -/
theorem eval_compare_append (vars : Variables) (functions : Functions) (first : Expression)
    (before : List (Relation × Expression)) :
    ((Expression.compare first before).eval vars functions = .ok (.bool true) ∧
      ∃ w, ∀ after, (Expression.compare first (before ++ after)).eval vars functions =
        evalRest vars functions w after) ∨
    ((Expression.compare first before).eval vars functions ≠ .ok (.bool true) ∧
      ∀ after, (Expression.compare first (before ++ after)).eval vars functions =
        (Expression.compare first before).eval vars functions) := by
  cases hv : first.eval vars functions with
  | ok v =>
      simp only [eval_compare_of_ok hv]
      exact evalRest_append v before
  | error error =>
      rw [eval_compare_of_error hv]
      exact Or.inr ⟨fun h => (by cases h), fun after => eval_compare_of_error hv (before ++ after)⟩

end Chains

/-! ### The operands that are reached -/

/-- Evaluation reaches the operand in a place: if the operand fails, so does the whole, with its
error. -/
def Reaches (vars : Variables) (functions : Functions) (whole : Expression → Expression) : Prop :=
  ∀ e error, e.eval vars functions = .error error → (whole e).eval vars functions = .error error

/-- Evaluation does not depend on the operand in a place. -/
def Ignores (vars : Variables) (functions : Functions) (whole : Expression → Expression) : Prop :=
  ∀ e e', (whole e).eval vars functions = (whole e').eval vars functions

variable {whole whole' : Expression → Expression} {P : Prop}

/-- There are operands with different errors, so nothing is both reached and ignored. -/
theorem Reaches.not_ignores (h : Reaches vars functions whole) :
    ¬ Ignores vars functions whole := by
  intro hignores
  have hsame := hignores (.negative (.literal .null)) (.positive (.literal .null))
  rw [h _ (.evaluation (.sign '-' .none)) (by rfl), h _ (.evaluation (.sign '+' .none)) (by rfl)]
    at hsame
  revert hsame
  simp

/-- Evaluation reaches the operand in a place exactly under a condition, and else ignores it. -/
structure ReachedIff (vars : Variables) (functions : Functions) (P : Prop)
    (whole : Expression → Expression) : Prop where
  reaches : Reaches vars functions whole ↔ P
  ignores : Ignores vars functions whole ↔ ¬ P

namespace ReachedIff

theorem of_cases (h : P ∧ Reaches vars functions whole ∨ ¬ P ∧ Ignores vars functions whole) :
    ReachedIff vars functions P whole := by
  rcases h with ⟨hp, hreaches⟩ | ⟨hp, hignores⟩
  · exact ⟨iff_of_true hreaches hp, iff_of_false hreaches.not_ignores (not_not_intro hp)⟩
  · exact ⟨iff_of_false (fun h => h.not_ignores hignores) hp, iff_of_true hignores hp⟩

theorem congr (h : ReachedIff vars functions P whole)
    (heq : ∀ e, (whole e).eval vars functions = (whole' e).eval vars functions) :
    ReachedIff vars functions P whole' := by
  refine ⟨Iff.trans ?_ h.reaches, Iff.trans ?_ h.ignores⟩
  · simp only [Reaches, heq]
  · simp only [Ignores, heq]

theorem chain (first : Expression) (before : List (Relation × Expression)) (r : Relation)
    (after : List (Relation × Expression)) :
    ReachedIff vars functions
      ((Expression.compare first before).eval vars functions = .ok (.bool true))
      fun e => .compare first (before ++ (r, e) :: after) := by
  apply of_cases
  rcases eval_compare_append vars functions first before with
    ⟨hholds, w, hcarried⟩ | ⟨hfails, hrest⟩
  · refine Or.inl ⟨hholds, fun e error he => ?_⟩
    exact (hcarried ((r, e) :: after)).trans (evalRest_cons_error he after)
  · refine Or.inr ⟨hfails, fun e e' => ?_⟩
    exact (hrest ((r, e) :: after)).trans (hrest ((r, e') :: after)).symm

end ReachedIff

/-! ### The main result -/

/-- **A chain of comparisons is the conjunction of its links**: the same truth or the same error.
Both come to the first operand, and both come to an operand behind `before` exactly if the
comparisons up to there hold, and else do not depend on it. -/
theorem chain_conjunction (vars : Variables) (functions : Functions) (first : Expression)
    {rest : List (Relation × Expression)} (h : rest ≠ []) :
    (∃ t : Except Error Bool,
      (Expression.compare first rest).eval vars functions = t.map .bool ∧
      (Expression.all (links first rest)).eval vars functions = t.map .bool) ∧
    (Reaches vars functions (fun e => .compare e rest) ∧
      Reaches vars functions fun e => .all (links e rest)) ∧
    ∀ before r after,
      ReachedIff vars functions
        ((Expression.compare first before).eval vars functions = .ok (.bool true))
        (fun e => .compare first (before ++ (r, e) :: after)) ∧
      ReachedIff vars functions
        ((Expression.compare first before).eval vars functions = .ok (.bool true))
        fun e => .all (links first (before ++ (r, e) :: after)) := by
  refine ⟨?_, ⟨?_, ?_⟩, fun before r after => ⟨.chain first before r after, ?_⟩⟩
  · obtain ⟨t, ht⟩ := exists_truth_compare vars functions first rest
    exact ⟨t, ht, (eval_chain first h).symm.trans ht⟩
  · exact fun e error he => eval_compare_of_error he rest
  · exact fun e error he => (eval_chain e h).symm.trans (eval_compare_of_error he rest)
  · refine (ReachedIff.chain first before r after).congr fun e => eval_chain first ?_
    exact List.append_ne_nil_of_right_ne_nil before (List.cons_ne_nil _ _)

/-! ### A sample -/

namespace Sample

/-- `kind is 'leave' in kinds`, of which the second comparison is asked for if the first holds. -/
def leave : List (Relation × Expression) :=
  [(.identical, .literal (.str "leave")), (.member, .name "kinds" 19)]

/-- The variables with a kind only. -/
def kindOnly (kind : String) : Variables := fun n =>
  if n = "kind" then some (.str kind) else none

end Sample

/-- Another kind ends the chain, and the conjunction of its links, before the kinds are asked for.
With this one both miss the kinds, of which nothing is known. -/
theorem chain_conjunction_sample :
    Sample.leave ≠ [] ∧
    (Expression.all (links (.name "kind" 0) Sample.leave)).eval (Sample.kindOnly "sick") .builtin =
      .ok (.bool false) ∧
    (Expression.all (links (.name "kind" 0) Sample.leave)).eval (Sample.kindOnly "leave") .builtin =
      .error (.undefinedVariable "kinds") := by
  have hne : Sample.leave ≠ [] := List.cons_ne_nil _ _
  obtain ⟨⟨t, hsick, hlinks⟩, -⟩ :=
    chain_conjunction (Sample.kindOnly "sick") .builtin (.name "kind" 0) hne
  obtain ⟨⟨t', hleave, hlinks'⟩, -⟩ :=
    chain_conjunction (Sample.kindOnly "leave") .builtin (.name "kind" 0) hne
  have ht : t.map Json.bool = .ok (.bool false) := hsick.symm.trans (by rfl)
  have ht' : t'.map Json.bool = .error (.undefinedVariable "kinds") := hleave.symm.trans (by rfl)
  exact ⟨hne, hlinks.trans ht, hlinks'.trans ht'⟩

end Docket.Expression
