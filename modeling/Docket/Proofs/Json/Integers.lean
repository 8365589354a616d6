import Docket.Dispatch
import Docket.Proofs.Double
import Docket.Proofs.Json.Order

/-! # Comparing integers

Numbers are compared as floating-point numbers, which keep 53 bits of an integer.  So two integers
are taken for one where 53 bits keep the same of both, and everywhere else they are compared exactly
(`Told`).  Equality, the order, the comparisons of expressions, membership in a list and the choice
of a dispatch rule all agree on this, as they are made of the same two functions.

Among the integers that a value can hold, those that are taken for one are beyond `2 ^ 53` and at
most 2048 apart, and no two of them are ever ordered the wrong way round (`integers_exact`). -/

namespace Docket

open Double (rounded)

namespace Json

def integer (i : ℤ) : Json := .num (.int i)

def integers (is : List ℤ) : Json := .arr (is.map integer)

/-- Two integers are told apart, if they are two: 53 bits keep something else of each. -/
def Told (i j : ℤ) : Prop := rounded i = rounded j → i = j

variable {i j : ℤ} {is : List ℤ}

theorem Told.symm (h : Told i j) : Told j i := fun hji => (h hji.symm).symm

/-! ### Two integers -/

theorem toDouble_int (i : ℤ) : (Number.int i).toDouble.units = rounded i * Double.one :=
  Double.ofInt_units i

theorem one_pos : (0 : ℤ) < Double.one := Int.natCast_pos.mpr Double.one_pos

theorem compare_mul_right {c : ℤ} (hc : 0 < c) (a b : ℤ) :
    compare (a * c) (b * c) = compare a b := by
  rcases lt_trichotomy a b with hlt | rfl | hgt
  · rw [compare_lt_iff_lt.mpr hlt, compare_lt_iff_lt.mpr (mul_lt_mul_of_pos_right hlt hc)]
  · rw [compare_eq_iff_eq.mpr rfl, compare_eq_iff_eq.mpr rfl]
  · rw [compare_gt_iff_gt.mpr hgt, compare_gt_iff_gt.mpr (mul_lt_mul_of_pos_right hgt hc)]

theorem equal_integer (i j : ℤ) :
    (integer i).equal (integer j) = decide (rounded i = rounded j) := by
  refine Bool.eq_iff_iff.mpr (Iff.trans ?_ decide_eq_true_iff.symm)
  show (Number.int i).equal (.int j) = true ↔ _
  rw [Number.equal_iff, toDouble_int, toDouble_int]
  exact mul_left_inj' one_pos.ne'

theorem order_integer (i j : ℤ) :
    (integer i).order (integer j) = .ok (compare (rounded i) (rounded j)) := by
  refine (order_num _ _).trans (congrArg Except.ok ?_)
  rw [toDouble_int, toDouble_int]
  exact compare_mul_right one_pos _ _

/-- Where two integers are told apart, rounding does not change their order. -/
theorem Told.compare_eq (h : Told i j) : compare (rounded i) (rounded j) = compare i j := by
  rcases lt_trichotomy i j with hlt | rfl | hgt
  · have hne : rounded i ≠ rounded j := fun heq => hlt.ne (h heq)
    rw [compare_lt_iff_lt.mpr hlt, compare_lt_iff_lt]
    exact (Double.rounded_mono hlt.le).lt_of_ne hne
  · rw [compare_eq_iff_eq.mpr rfl, compare_eq_iff_eq.mpr rfl]
  · have hne : rounded j ≠ rounded i := fun heq => hgt.ne' (h heq.symm)
    rw [compare_gt_iff_gt.mpr hgt, compare_gt_iff_gt]
    exact (Double.rounded_mono hgt.le).lt_of_ne hne

/-- No comparison takes two integers for one, or orders them the wrong way round. -/
structure Exact (i j : ℤ) : Prop where
  equal : (integer i).equal (integer j) = decide (i = j)
  order : (integer i).order (integer j) = .ok (compare i j)
  relation : ∀ (r : Relation) (test : Ordering → Bool), r.onOrder = some test →
    r.holds (integer i) (integer j) = .ok (test (compare i j))
  rule : ∀ coercion, ruleMatches coercion (integer i) (integer j) = decide (i = j)

theorem ruleMatches_integer (coercion : Bool) (i j : ℤ) :
    ruleMatches coercion (integer i) (integer j) = (integer i).equal (integer j) := by
  show ((integer i).equal (integer j) || (coercion && (false && _))) = _
  rw [Bool.false_and, Bool.and_false, Bool.or_false]

theorem Told.exact (h : Told i j) : Exact i j := by
  have hequal : (integer i).equal (integer j) = decide (i = j) := by
    rw [equal_integer, decide_eq_decide]
    exact ⟨h, congrArg rounded⟩
  have horder : (integer i).order (integer j) = .ok (compare i j) := by
    rw [order_integer, h.compare_eq]
  exact ⟨hequal, horder, fun r test hr => Relation.holds_of_order hr horder,
    fun coercion => (ruleMatches_integer coercion i j).trans hequal⟩

theorem Exact.told (h : Exact i j) : Told i j := by
  intro heq
  have hequal := h.equal
  rw [equal_integer, decide_eq_decide] at hequal
  exact hequal.mp heq

/-! ### Lists of integers -/

theorem any_equal_integer (is : List ℤ) (i : ℤ) :
    ((is.map integer).any fun v => v.equal (integer i)) =
      decide (∃ j ∈ is, rounded j = rounded i) := by
  rw [List.any_map, Bool.eq_iff_iff, decide_eq_true_iff, List.any_eq_true]
  simp only [Function.comp_apply, equal_integer, decide_eq_true_iff]

/-- Rounding is no matter for a list that has the integer, or from all of which it is told apart. -/
theorem exists_rounded_iff :
    ((∃ j ∈ is, rounded j = rounded i) ↔ i ∈ is) ↔ i ∈ is ∨ ∀ j ∈ is, Told i j := by
  constructor
  · intro h
    by_cases hi : i ∈ is
    · exact Or.inl hi
    · exact Or.inr fun j hj heq => absurd (h.mp ⟨j, hj, heq.symm⟩) hi
  · intro h
    refine ⟨?_, fun hi => ⟨i, hi, rfl⟩⟩
    rintro ⟨j, hj, heq⟩
    rcases h with hi | htold
    · exact hi
    · rwa [htold j hj heq.symm]

theorem member_integers (i : ℤ) (is : List ℤ) :
    member (integer i) (integers is) = .ok (decide (∃ j ∈ is, rounded j = rounded i)) :=
  congrArg Except.ok (any_equal_integer is i)

theorem ruleMatches_integers (coercion : Bool) (i : ℤ) (is : List ℤ) :
    ruleMatches coercion (integers is) (integer i) = decide (∃ j ∈ is, rounded j = rounded i) := by
  rw [← any_equal_integer]
  show ((is.map integer).any fun v => scalarMatches coercion v (integer i)) = _
  rw [List.any_map, List.any_map]
  exact congrArg (List.any is) (funext fun j => ruleMatches_integer coercion j i)

/-! ### Integers that are taken for one -/

theorem told_of_lt (hi : i.natAbs < 2 ^ 53) : Told i j := by
  intro heq
  rw [Double.rounded_eq_self hi.le] at heq
  have hself : rounded (2 ^ 53) = 2 ^ 53 := Double.rounded_eq_self (by norm_num)
  have hneg : rounded (-2 ^ 53) = -2 ^ 53 := Double.rounded_eq_self (by norm_num)
  rcases Nat.lt_or_ge (2 ^ 53) j.natAbs with hj | hj
  · rcases Int.le_total 0 j with hpos | hpos
    · have hle := Double.rounded_mono (show (2 : ℤ) ^ 53 ≤ j by omega)
      omega
    · have hle := Double.rounded_mono (show j ≤ -(2 : ℤ) ^ 53 by omega)
      omega
  · rw [heq, Double.rounded_eq_self hj]

/-- The integers that a value can hold. -/
def Holdable (i : ℤ) : Prop := Number.minInt ≤ i ∧ i ≤ Number.maxInt

instance (i : ℤ) : Decidable (Holdable i) :=
  inferInstanceAs (Decidable (Number.minInt ≤ i ∧ i ≤ Number.maxInt))

theorem Holdable.natAbs_lt (h : Holdable i) : i.natAbs < 2 ^ 64 := by
  unfold Holdable Number.minInt Number.maxInt at h
  omega

/-- Two integers that are taken for one are near each other, and far from zero. -/
theorem near_of_not_told (hi : Holdable i) (hj : Holdable j) (h : ¬Told i j) :
    |i - j| ≤ 2048 ∧ 2 ^ 53 ≤ i.natAbs ∧ 2 ^ 53 ≤ j.natAbs := by
  have heq : rounded i = rounded j := by
    by_contra hne
    exact h fun heq => absurd heq hne
  have hinear := abs_le.mp (Double.rounded_near hi.natAbs_lt)
  have hjnear := abs_le.mp (Double.rounded_near hj.natAbs_lt)
  refine ⟨abs_le.mpr ⟨by omega, by omega⟩, ?_, ?_⟩
  · exact Nat.le_of_not_lt fun hlt => h (told_of_lt hlt)
  · exact Nat.le_of_not_lt fun hlt => h (told_of_lt hlt).symm

/-! ### The main result -/

/-- **When integers are compared exactly.**  No comparison confuses two integers exactly if they are
told apart, and a list of integers has an integer exactly, as the list of a condition and as the
value of a dispatch, if and only if it is there or told apart from all of them.  Integers are never
ordered the wrong way round; and those that a value can hold are told apart unless both are beyond
`2 ^ 53` and they are at most 2048 apart. -/
theorem integers_exact (i j : ℤ) (is : List ℤ) (coercion : Bool) :
    (Exact i j ↔ Told i j) ∧
    (member (integer i) (integers is) = .ok (decide (i ∈ is)) ↔ i ∈ is ∨ ∀ j ∈ is, Told i j) ∧
    (ruleMatches coercion (integers is) (integer i) = decide (i ∈ is) ↔
      i ∈ is ∨ ∀ j ∈ is, Told i j) ∧
    (i ≤ j → (integer i).order (integer j) ≠ .ok .gt) ∧
    (Holdable i → Holdable j →
      Told i j ∨ (|i - j| ≤ 2048 ∧ 2 ^ 53 ≤ i.natAbs ∧ 2 ^ 53 ≤ j.natAbs)) := by
  refine ⟨⟨Exact.told, Told.exact⟩, ?_, ?_, fun hij => ?_, fun hi hj => ?_⟩
  · rw [member_integers, Except.ok.injEq, decide_eq_decide]
    exact exists_rounded_iff
  · rw [ruleMatches_integers, decide_eq_decide]
    exact exists_rounded_iff
  · rw [order_integer]
    intro hgt
    exact (Double.rounded_mono hij).not_gt (compare_gt_iff_gt.mp (Except.ok.inj hgt))
  · exact or_iff_not_imp_left.mpr (near_of_not_told hi hj)

/-- `2 ^ 53 - 1` is compared exactly with `2 ^ 53 + 1`, and the greatest integer that a value can
hold is told apart from the smallest, which is not above it. -/
theorem integers_exact_sample :
    Exact 9007199254740991 9007199254740993 ∧
    Holdable (-9223372036854775808) ∧ Holdable 18446744073709551615 ∧
    (integer (-9223372036854775808)).order (integer 18446744073709551615) ≠ .ok .gt ∧
    Told (-9223372036854775808) 18446744073709551615 := by
  obtain ⟨hexact, -⟩ := integers_exact 9007199254740991 9007199254740993 [] false
  obtain ⟨-, -, -, horder, htold⟩ :=
    integers_exact (-9223372036854775808) 18446744073709551615 [] false
  have hmin : Holdable (-9223372036854775808) := by decide
  have hmax : Holdable 18446744073709551615 := by decide
  exact ⟨hexact.mpr (told_of_lt (by norm_num)), hmin, hmax, horder (by norm_num),
    (htold hmin hmax).resolve_right (by norm_num)⟩

/-- **Two integers may be taken for one.**  `2 ^ 53 + 1` is equal to `2 ^ 53` and not greater, a
list has it that has only the other, and a dispatch takes the rule of the other. -/
theorem integers_confused :
    ¬(∀ i j, Holdable i → Holdable j → Exact i j) ∧
    (integer 9007199254740993).equal (integer 9007199254740992) = true ∧
    (integer 9007199254740993).order (integer 9007199254740992) = .ok .eq ∧
    member (integer 9007199254740993) (integers [9007199254740992]) = .ok true ∧
    ruleMatches false (integer 9007199254740993) (integer 9007199254740992) = true := by
  have hrounded : rounded 9007199254740993 = rounded 9007199254740992 := by decide +kernel
  have hequal : (integer 9007199254740993).equal (integer 9007199254740992) = true := by
    rw [equal_integer, decide_eq_true hrounded]
  refine ⟨fun h => ?_, hequal, ?_, ?_, ?_⟩
  · have hexact := (h 9007199254740993 9007199254740992 (by decide) (by decide)).equal
    rw [hequal] at hexact
    revert hexact
    decide
  · rw [order_integer, hrounded, compare_eq_iff_eq.mpr rfl]
  · rw [member_integers, decide_eq_true ⟨_, List.mem_singleton_self _, hrounded.symm⟩]
  · rw [ruleMatches_integer, hequal]

end Json

end Docket
