import Docket.Expression.Eval
import Docket.Proofs.Json.Equality
import Mathlib.Algebra.Order.Group.Int
import Mathlib.Data.String.Basic
import Mathlib.Order.Compare

/-! # The order of values

Numbers are ordered with numbers and texts with texts, and nothing else is (`Orderable`).  Both are
linear orders: the exact values of floating-point numbers, and the texts themselves.  So an order
that is asked for has exactly one of three answers, and these go together with equality.

`Coherent` says what equality, identity and order of values have to do with each other, whatever
they are.  `comparisons_coherent` is the main result: the comparisons of expressions are coherent,
and in an expression exactly one of `<`, `==` and `>` holds between values that can be ordered. -/

namespace Docket

/-! ### Linear orders -/

section Linear

variable {α : Type*} [LinearOrder α] {a b c : α}

/-- The order of three things in a row is that of the first two, or that of the last two where the
first two are equal. -/
theorem compare_then (hab : compare a b ≠ .gt) (hbc : compare b c ≠ .gt) :
    compare a c = (compare a b).then (compare b c) := by
  rcases (compare_le_iff_le.mp hab).lt_or_eq with hlt | rfl
  · have hac : a < c := hlt.trans_le (compare_le_iff_le.mp hbc)
    rw [compare_lt_iff_lt.mpr hac, compare_lt_iff_lt.mpr hlt]
    rfl
  · rw [compare_eq_iff_eq.mpr (rfl : a = a)]
    rfl

end Linear

namespace Json

variable {u v w : Json} {o o' : Ordering}

/-- The values between which there is an order. -/
inductive Orderable : Json → Json → Prop
  | numbers (m n : Number) : Orderable (.num m) (.num n)
  | texts (s t : String) : Orderable (.str s) (.str t)

theorem order_num (m n : Number) :
    order (.num m) (.num n) = .ok (compare m.toDouble.units n.toDouble.units) := rfl

theorem order_str (s t : String) : order (.str s) (.str t) = .ok (compare s t) := rfl

theorem orderable_of_order (h : order v w = .ok o) : Orderable v w := by
  cases v <;> cases w <;> first | exact .numbers _ _ | exact .texts _ _ | cases h

theorem Orderable.order (h : Orderable v w) : ∃ o, v.order w = .ok o := by
  cases h with
  | numbers m n => exact ⟨_, order_num m n⟩
  | texts s t => exact ⟨_, order_str s t⟩

theorem Orderable.eq_iff (h : Orderable v w) : v.order w = .ok .eq ↔ v.equal w = true := by
  cases h with
  | numbers m n =>
      rw [order_num, Except.ok.injEq, compare_eq_iff_eq]
      exact Number.equal_iff.symm
  | texts s t =>
      rw [order_str, Except.ok.injEq, compare_eq_iff_eq]
      exact beq_iff_eq.symm

theorem order_swap (h : order v w = .ok o) : order w v = .ok o.swap := by
  cases orderable_of_order h with
  | numbers m n =>
      rw [order_num, Except.ok.injEq] at h ⊢
      rw [Std.OrientedOrd.eq_swap, h]
  | texts s t =>
      rw [order_str, Except.ok.injEq] at h ⊢
      rw [Std.OrientedOrd.eq_swap, h]

theorem order_then (huv : order u v = .ok o) (hvw : order v w = .ok o') (ho : o ≠ .gt)
    (ho' : o' ≠ .gt) : order u w = .ok (o.then o') := by
  cases orderable_of_order huv with
  | numbers m n =>
      cases orderable_of_order hvw with
      | numbers _ k =>
          rw [order_num, Except.ok.injEq] at huv hvw ⊢
          subst huv hvw
          exact compare_then ho ho'
  | texts s t =>
      cases orderable_of_order hvw with
      | texts _ r =>
          rw [order_str, Except.ok.injEq] at huv hvw ⊢
          subst huv hvw
          exact compare_then ho ho'

/-- What equality, identity and order have to do with each other: equality is an equivalence to
which identical values belong, there is an order between numbers and between texts only, it says
`eq` exactly between equal values, and it is antisymmetric and transitive. -/
structure Coherent (equal same : Json → Json → Bool)
    (order : Json → Json → Except Expression.Misuse Ordering) : Prop where
  refl : ∀ v, equal v v = true
  symm : ∀ v w, equal v w = true → equal w v = true
  trans : ∀ u v w, equal u v = true → equal v w = true → equal u w = true
  of_same : ∀ v w, same v w = true → equal v w = true
  ordered : ∀ v w, (∃ o, order v w = .ok o) ↔ Orderable v w
  eq_iff : ∀ v w, Orderable v w → (order v w = .ok .eq ↔ equal v w = true)
  swap : ∀ v w o, order v w = .ok o → order w v = .ok o.swap
  chain : ∀ u v w o o', order u v = .ok o → order v w = .ok o' → o ≠ .gt → o' ≠ .gt →
    order u w = .ok (o.then o')

theorem coherent : Coherent equal same order where
  refl := equal_refl
  symm _ _ := equal_symm
  trans _ _ _ := equal_trans
  of_same _ _ := equal_of_same
  ordered _ _ := ⟨fun ⟨_, h⟩ => orderable_of_order h, Orderable.order⟩
  eq_iff _ _ := Orderable.eq_iff
  swap _ _ _ := order_swap
  chain _ _ _ _ _ := order_then

end Json

/-! ### Comparisons in expressions -/

/-- The orders of two values in which a comparison holds, if it is a comparison of that sort. -/
def Relation.onOrder : Relation → Option (Ordering → Bool)
  | .equal => some Ordering.isEq
  | .notEqual => some Ordering.isNe
  | .less => some Ordering.isLT
  | .lessEqual => some Ordering.isLE
  | .greater => some Ordering.isGT
  | .greaterEqual => some Ordering.isGE
  | .member | .notMember | .identical | .notIdentical => none

variable {v w : Json} {o : Ordering}

theorem Relation.holds_of_order {r : Relation} {test : Ordering → Bool} (hr : r.onOrder = some test)
    (h : v.order w = .ok o) : r.holds v w = .ok (test o) := by
  have hequal : v.equal w = o.isEq := by
    have heq := (Json.orderable_of_order h).eq_iff
    rw [h, Except.ok.injEq] at heq
    cases o <;> simp_all
  cases r <;> cases hr
  · exact congrArg Except.ok hequal
  · refine congrArg Except.ok ?_
    rw [hequal]
    cases o <;> rfl
  all_goals
    unfold Relation.holds
    rw [h]
    cases o <;> rfl

namespace Expression

variable {vars : Variables} {functions : Functions} {a b : Expression}

theorem eval_compare {holds : Bool} {r : Relation} (ha : a.eval vars functions = .ok v)
    (hb : b.eval vars functions = .ok w) (hr : r.holds v w = .ok holds) :
    (Expression.compare a [(r, b)]).eval vars functions = .ok (.bool holds) := by
  rw [eval, ha]
  show evalRest vars functions v [(r, b)] = _
  rw [evalRest, hb]
  show (lift (r.holds v w) >>= fun holds =>
    if holds then evalRest vars functions w [] else .ok (.bool false)) = _
  rw [hr]
  cases holds with
  | false => rfl
  | true => rfl

/-- **Comparisons are coherent.**  Equality, identity and order of values are, and between two
operands the values of which can be ordered exactly one of `<`, `==` and `>` is true; `<=` is true
if one of the first two is, and all of them have a value. -/
theorem comparisons_coherent :
    Json.Coherent Json.equal Json.same Json.order ∧
    ∀ (vars : Variables) (functions : Functions) (a b : Expression) (v w : Json),
      a.eval vars functions = .ok v → b.eval vars functions = .ok w → Json.Orderable v w →
      ∃ less equal greater : Bool,
        (Expression.compare a [(.less, b)]).eval vars functions = .ok (.bool less) ∧
        (Expression.compare a [(.equal, b)]).eval vars functions = .ok (.bool equal) ∧
        (Expression.compare a [(.greater, b)]).eval vars functions = .ok (.bool greater) ∧
        (Expression.compare a [(.lessEqual, b)]).eval vars functions = .ok (.bool (less || equal)) ∧
        [less, equal, greater].count true = 1 := by
  refine ⟨Json.coherent, fun vars functions a b v w ha hb hvw => ?_⟩
  obtain ⟨o, ho⟩ := hvw.order
  have heval {r : Relation} {test : Ordering → Bool} (hr : r.onOrder = some test) :
      (Expression.compare a [(r, b)]).eval vars functions = .ok (.bool (test o)) :=
    eval_compare ha hb (Relation.holds_of_order hr ho)
  refine ⟨o.isLT, o.isEq, o.isGT, heval rfl, heval rfl, heval rfl, ?_, ?_⟩
  · rw [heval (r := .lessEqual) rfl]
    cases o <;> rfl
  · cases o <;> rfl

/-- Zero is equal to both zeros of floating-point numbers, and exactly one of three comparisons is
true between two texts. -/
theorem comparisons_coherent_sample :
    (Json.equal (.num (.int 0)) (.num (.float (.zero false))) = true ∧
      Json.equal (.num (.float (.zero false))) (.num (.float (.zero true))) = true ∧
      Json.equal (.num (.int 0)) (.num (.float (.zero true))) = true) ∧
    Json.Orderable (.str "in review") (.str "draft") ∧
    ∃ less equal greater : Bool,
      (Expression.compare (.literal (.str "in review")) [(.less, .literal (.str "draft"))]).eval
        (fun _ => none) .builtin = .ok (.bool less) ∧
      (Expression.compare (.literal (.str "in review")) [(.equal, .literal (.str "draft"))]).eval
        (fun _ => none) .builtin = .ok (.bool equal) ∧
      (Expression.compare (.literal (.str "in review")) [(.greater, .literal (.str "draft"))]).eval
        (fun _ => none) .builtin = .ok (.bool greater) ∧
      (Expression.compare (.literal (.str "in review"))
        [(.lessEqual, .literal (.str "draft"))]).eval (fun _ => none) .builtin =
          .ok (.bool (less || equal)) ∧
      [less, equal, greater].count true = 1 := by
  have hint : Json.equal (.num (.int 0)) (.num (.float (.zero false))) = true := by decide +kernel
  have hzeros : Json.equal (.num (.float (.zero false))) (.num (.float (.zero true))) = true := by
    decide +kernel
  exact ⟨⟨hint, hzeros, comparisons_coherent.1.trans _ _ _ hint hzeros⟩, .texts _ _,
    comparisons_coherent.2 _ .builtin _ _ _ _ rfl rfl (.texts _ _)⟩

end Expression

end Docket
