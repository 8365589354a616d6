import Docket.Proofs.Expression.Mention

/-! # What decides a connective

`and` and `or` are one search through the outcomes of their operands, for the first that decides
(`settled`): for `and` a value that is not true, for `or` one that is, and for both an error.  The
outcome of the connective is that one, or the last one if none decides, and whatever stands behind
the one that decides is of no account (`Stops.eval_join`).

`not` exchanges the two truths and keeps errors, so it makes the search for one truth the search for
the other (`negated_settled`).  That is De Morgan's law, and it holds with values of any kind, with
errors, and with operands that are never reached: `connectives_dual`. -/

namespace Docket.Expression

variable {vars : Variables} {functions : Functions} {truth : Bool}

/-! ### The search -/

/-- Whether an outcome decides a search for a value of some truth: such a value does, and so does an
error. -/
def decides (truth : Bool) : Except Error Json → Bool
  | .ok v => v.truthy == truth
  | .error _ => true

/-- The first outcome that decides, else the last one, or the given one if there is none. -/
def settled (truth : Bool) (last : Except Error Json) :
    List (Except Error Json) → Except Error Json
  | [] => last
  | r :: rest => if decides truth r then r else settled truth r rest

theorem decides_eq_false_iff {r : Except Error Json} :
    decides truth r = false ↔ ∃ v, r = .ok v ∧ v.truthy = !truth := by
  cases r with
  | error e => simp [decides]
  | ok v => simp [decides, Bool.eq_not]

theorem settled_append {before after : List (Except Error Json)} {r last : Except Error Json}
    (hbefore : ∀ b ∈ before, decides truth b = false)
    (hr : decides truth r = true ∨ after = []) :
    settled truth last (before ++ r :: after) = r := by
  induction before generalizing last with
  | nil =>
      rw [List.nil_append, settled]
      rcases hr with hr | rfl
      · rw [if_pos hr]
      · exact ite_self r
  | cons b before ih =>
      obtain ⟨hb, hrest⟩ := List.forall_mem_cons.mp hbefore
      rw [List.cons_append, settled, hb, if_neg Bool.false_ne_true]
      exact ih hrest

/-! ### Negation -/

/-- The truth of a value turned round; an error stays. -/
def opposite (r : Except Error Json) : Except Error Bool := r.map fun v => !v.truthy

/-- What `not` makes of an outcome. -/
def negated (r : Except Error Json) : Except Error Json := (opposite r).map .bool

theorem eval_not (e : Expression) :
    (Expression.not e).eval vars functions = negated (e.eval vars functions) := by
  rw [eval]
  cases e.eval vars functions with
  | error error => rfl
  | ok v => rfl

theorem decides_negated (r : Except Error Json) :
    decides truth (negated r) = decides (!truth) r := by
  cases r with
  | error error => rfl
  | ok v =>
      show ((!v.truthy) == truth) = (v.truthy == !truth)
      cases v.truthy <;> cases truth <;> rfl

/-- **Turning all truths round turns the search round.** -/
theorem negated_settled (rs : List (Except Error Json)) (last : Except Error Json) :
    negated (settled truth last rs) = settled (!truth) (negated last) (rs.map negated) := by
  induction rs generalizing last with
  | nil => rfl
  | cons r rest ih =>
      rw [List.map_cons, settled, settled, decides_negated, Bool.not_not, apply_ite negated, ih]

/-! ### Connectives -/

theorem evalAll_eq_settled (es : List Expression) (last : Json) :
    evalAll vars functions last es = settled false (.ok last) (es.map (eval vars functions)) := by
  induction es generalizing last with
  | nil => rw [evalAll, List.map_nil, settled]
  | cons e es ih =>
      rw [evalAll, List.map_cons, settled]
      cases e.eval vars functions with
      | error error => rfl
      | ok v =>
          rw [ok_bind, ih]
          cases hv : v.truthy <;> simp [decides, hv]

theorem evalAny_eq_settled (es : List Expression) (last : Json) :
    evalAny vars functions last es = settled true (.ok last) (es.map (eval vars functions)) := by
  induction es generalizing last with
  | nil => rw [evalAny, List.map_nil, settled]
  | cons e es ih =>
      rw [evalAny, List.map_cons, settled]
      cases e.eval vars functions with
      | error error => rfl
      | ok v =>
          rw [ok_bind, ih]
          cases hv : v.truthy <;> simp [decides, hv]

/-- The connectives of expressions. -/
inductive Connective where
  | and
  | or
  deriving DecidableEq, Repr

namespace Connective

/-- The expression that a connective makes of its operands. -/
def join : Connective → List Expression → Expression
  | .and => .all
  | .or => .any

def dual : Connective → Connective
  | .and => .or
  | .or => .and

/-- The truth of the values that decide. -/
def decisive : Connective → Bool
  | .and => false
  | .or => true

theorem decisive_dual (c : Connective) : c.dual.decisive = !c.decisive := by
  cases c <;> rfl

theorem eval_join (c : Connective) (es : List Expression) :
    (c.join es).eval vars functions =
      settled c.decisive (.ok (.bool !c.decisive)) (es.map (eval vars functions)) := by
  cases c with
  | and => rw [join, eval, evalAll_eq_settled]; rfl
  | or => rw [join, eval, evalAny_eq_settled]; rfl

/-- Where a connective stops: the operands before do not decide, and this one does, or is the last
one. -/
structure Stops (c : Connective) (vars : Variables) (functions : Functions)
    (before : List Expression) (e : Expression) (after : List Expression) : Prop where
  passed : ∀ b ∈ before, ∃ v, b.eval vars functions = .ok v ∧ v.truthy = !c.decisive
  here : decides c.decisive (e.eval vars functions) = true ∨ after = []

variable {c : Connective} {before after : List Expression} {e : Expression}

/-- **A connective has the outcome of the operand at which it stops.** -/
theorem Stops.eval_join (h : c.Stops vars functions before e after) :
    (c.join (before ++ e :: after)).eval vars functions = e.eval vars functions := by
  have hpassed : ∀ r ∈ before.map (eval vars functions), decides c.decisive r = false :=
    List.forall_mem_map.mpr fun b hb => decides_eq_false_iff.mpr (h.passed b hb)
  rw [c.eval_join, List.map_append, List.map_cons]
  exact settled_append hpassed (h.here.imp_right (congrArg (List.map _)))

theorem exists_stops (c : Connective) (vars : Variables) (functions : Functions) :
    ∀ {es : List Expression}, es ≠ [] →
      ∃ before e after, es = before ++ e :: after ∧ c.Stops vars functions before e after
  | [], h => absurd rfl h
  | [e], _ => ⟨[], e, [], rfl, List.forall_mem_nil _, Or.inr rfl⟩
  | e :: e' :: es, _ => by
      cases hdecides : decides c.decisive (e.eval vars functions) with
      | true => exact ⟨[], e, e' :: es, rfl, List.forall_mem_nil _, Or.inl hdecides⟩
      | false =>
          obtain ⟨before, last, after, hsplit, hstops⟩ :=
            exists_stops c vars functions (List.cons_ne_nil e' es)
          refine ⟨e :: before, last, after, congrArg (List.cons e) hsplit, ?_, hstops.here⟩
          exact List.forall_mem_cons.mpr ⟨decides_eq_false_iff.mp hdecides, hstops.passed⟩

theorem eval_not_join (c : Connective) (es : List Expression) :
    (Expression.not (c.join es)).eval vars functions =
      (c.dual.join (es.map .not)).eval vars functions := by
  have hnot : eval vars functions ∘ Expression.not = negated ∘ eval vars functions :=
    funext fun e => eval_not e
  rw [eval_not, c.eval_join, c.dual.eval_join, negated_settled, List.map_map, List.map_map, hnot,
    c.decisive_dual]
  rfl

end Connective

/-! ### The main result -/

/-- **De Morgan's laws, errors included.**  `not` of a connective and the other connective of the
negations are the same truth or the same error.  There is one operand the outcome of which is that
of the connective: those before it have values that do not decide, and if it decides, by its value
or by an error, then the outcome stays the same whatever operands follow; if it does not, none
follow. -/
theorem connectives_dual (c : Connective) (vars : Variables) (functions : Functions)
    {es : List Expression} (h : es ≠ []) :
    (∃ r : Except Error Bool,
      (Expression.not (c.join es)).eval vars functions = r.map .bool ∧
      (c.dual.join (es.map .not)).eval vars functions = r.map .bool) ∧
    ∃ before e after, es = before ++ e :: after ∧ c.Stops vars functions before e after ∧
      (c.join es).eval vars functions = e.eval vars functions ∧
      (decides c.decisive (e.eval vars functions) = true → ∀ others,
        (c.join (before ++ e :: others)).eval vars functions = e.eval vars functions) := by
  constructor
  · refine ⟨opposite ((c.join es).eval vars functions), eval_not _, ?_⟩
    rw [← c.eval_not_join, eval_not]
    rfl
  · obtain ⟨before, e, after, rfl, hstops⟩ := c.exists_stops vars functions h
    refine ⟨before, e, after, rfl, hstops, hstops.eval_join, fun hdecides others => ?_⟩
    exact Connective.Stops.eval_join ⟨hstops.passed, Or.inl hdecides⟩

/-! ### A sample -/

namespace Sample

/-- A title, a text that is empty, and an owner of whom nothing is known. -/
def demands : List Expression := [.name "title" 0, .literal (.str ""), .name "owner" 17]

def titleOnly : Variables := fun n => if n = "title" then some (.str "Leak") else none

end Sample

/-- The empty text decides an `and`, so that the owner is never asked for, and the negations are
true by the same operand.  For an `or` it is the title. -/
theorem connectives_dual_sample :
    Sample.demands ≠ [] ∧
    (Expression.not (.all Sample.demands)).eval Sample.titleOnly .builtin = .ok (.bool true) ∧
    (Expression.any (Sample.demands.map .not)).eval Sample.titleOnly .builtin =
      .ok (.bool true) ∧
    (Expression.not (.any Sample.demands)).eval Sample.titleOnly .builtin = .ok (.bool false) ∧
    (Expression.all (Sample.demands.map .not)).eval Sample.titleOnly .builtin =
      .ok (.bool false) := by
  have hne : Sample.demands ≠ [] := List.cons_ne_nil _ _
  obtain ⟨⟨r, hand, hnots⟩, -⟩ := connectives_dual .and Sample.titleOnly .builtin hne
  obtain ⟨⟨r', hor, hnots'⟩, -⟩ := connectives_dual .or Sample.titleOnly .builtin hne
  have hr : (r.map Json.bool) = .ok (.bool true) := hand.symm.trans (by rfl)
  have hr' : (r'.map Json.bool) = .ok (.bool false) := hor.symm.trans (by rfl)
  exact ⟨hne, hand.trans hr, hnots.trans hr, hor.trans hr', hnots'.trans hr'⟩

end Docket.Expression
