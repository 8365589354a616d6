import Docket.Proofs.Double
import Docket.Proofs.Expression.Mention
import Docket.Proofs.Json.Kept
import Mathlib.Data.Rat.Floor

/-! # Numbers without their fractions

`int` of a number is the number without its fraction, and beyond 64 bits with a sign it is the
nearest integer that has them.  Three kinds of numbers meet in it: integers of 64 bits with a sign
are taken as they are, larger ones go through the nearest floating-point number, which is beyond
these 64 bits as well (`Double.trunc_ofInt_of_large`), and the exact value of a floating-point number
is truncated (`Double.trunc_eq`).

So `int` of a number is exact if and only if the truncated value has 64 bits with a sign, and it
never fails.  The text of an integer of 64 bits is read back as that integer.  `int_truncates` is
the main result, and `int_clamps` shows an integer that `int` changes. -/

namespace Docket

/-! ### Truncation -/

/-- A rational number without its fraction, toward zero. -/
def truncated (q : ℚ) : ℤ := if 0 ≤ q then ⌊q⌋ else ⌈q⌉

@[simp] theorem truncated_intCast (i : ℤ) : truncated i = i := by
  unfold truncated
  rw [Int.floor_intCast, Int.ceil_intCast, ite_self]

theorem tdiv_eq_truncated (a : ℤ) {d : ℕ} (hd : 0 < d) : a.tdiv d = truncated (a / d) := by
  have hpos : (0 : ℚ) < d := Nat.cast_pos.mpr hd
  unfold truncated
  rcases Int.lt_or_le a 0 with ha | ha
  · have hneg : (a : ℚ) / d < 0 := div_neg_of_neg_of_pos (Int.cast_lt_zero.mpr ha) hpos
    have hflip : a.tdiv d = -(-a).tdiv d := by rw [Int.neg_tdiv, neg_neg]
    rw [if_neg hneg.not_ge, Rat.ceil_intCast_div_natCast, hflip,
      Int.tdiv_eq_ediv_of_nonneg (by omega)]
  · have hnonneg : 0 ≤ (a : ℚ) / d := div_nonneg (Int.cast_nonneg ha) hpos.le
    rw [if_pos hnonneg, Rat.floor_intCast_div_natCast, Int.tdiv_eq_ediv_of_nonneg ha]

def Number.value : Number → ℚ
  | .int i => i
  | .float x => x.units / Double.one

namespace Double

theorem trunc_eq (x : Double) : x.trunc = truncated (Number.float x).value :=
  tdiv_eq_truncated x.units one_pos

theorem trunc_ofInt (i : ℤ) : (ofInt i).trunc = rounded i := by
  have hone : (one : ℤ) ≠ 0 := Int.natCast_ne_zero.mpr one_pos.ne'
  rw [trunc, ofInt_units, Int.mul_tdiv_cancel _ hone]

/-- Rounding leaves an integer beyond 64 bits with a sign beyond them. -/
theorem trunc_ofInt_of_large {i : ℤ} (h : Number.maxInt64 < i) :
    Number.maxInt64 < (ofInt i).trunc := by
  have hself : rounded 9223372036854775808 = 9223372036854775808 := by decide +kernel
  have hle : rounded 9223372036854775808 ≤ rounded i := rounded_mono (by
    unfold Number.maxInt64 at h
    omega)
  rw [trunc_ofInt, Number.maxInt64]
  omega

end Double

/-! ### Decimal texts -/

namespace Text

variable {ds s : List Char} {c : Char}

theorem natOf_toDigits (n : ℕ) : natOf (Nat.toDigits 10 n) = n := by
  have heq : natOf (Nat.toDigits 10 n) = Nat.ofDigitChars 10 (Nat.toDigits 10 n) 0 := by
    unfold natOf Nat.ofDigitChars
    simp only [Nat.mul_comm, digitValue]
  rw [heq, Nat.ofDigitChars_ten_toDigits]

theorem isDigit_of_mem_toDigits (n : ℕ) : ∀ d ∈ Nat.toDigits 10 n, isDigit d = true :=
  fun _ hd => Nat.isDigit_of_mem_toDigits (by decide) (by decide) hd

theorem intOf?_minus (hne : ds ≠ []) (h : ∀ d ∈ ds, isDigit d = true) :
    intOf? ('-' :: ds) = some (-(natOf ds : ℤ)) := by
  have hall : ds.all isDigit = true := List.all_eq_true.mpr h
  simp [intOf?, hne, hall]

theorem intOf?_digits (hne : ds ≠ []) (h : ∀ d ∈ ds, isDigit d = true) :
    intOf? ds = some (natOf ds : ℤ) := by
  have hall : ds.all isDigit = true := List.all_eq_true.mpr h
  unfold intOf?
  split
  · next minus rest heq =>
    split at heq
    · exact absurd (h '-' (List.mem_cons_self ..)) (by decide)
    · exact absurd (h '+' (List.mem_cons_self ..)) (by decide)
    · cases heq
      simp [hne, hall]

theorem toString_toList (k : ℤ) :
    (toString k).toList =
      if k < 0 then '-' :: Nat.toDigits 10 k.natAbs else Nat.toDigits 10 k.natAbs := by
  cases k with
  | ofNat n => 
    rw [if_neg (by simp)]
    exact Nat.toList_repr
  | negSucc n =>
    rw [if_pos (Int.negSucc_lt_zero n)]
    show ("-" ++ (n + 1).repr).toList = _
    rw [String.toList_append, Nat.toList_repr]
    rfl

theorem intOf?_toString (k : ℤ) : intOf? (toString k).toList = some k := by
  rw [toString_toList]
  split
  · rw [intOf?_minus Nat.toDigits_ne_nil (isDigit_of_mem_toDigits _), natOf_toDigits]
    congr 1
    omega
  · rw [intOf?_digits Nat.toDigits_ne_nil (isDigit_of_mem_toDigits _), natOf_toDigits]
    congr 1
    omega

theorem isBlank_of_isDigit (h : isDigit c = true) : isBlank c = false := by
  simp only [isDigit, Bool.and_eq_true, decide_eq_true_eq, Char.le_def, UInt32.le_iff_toNat_le] at h
  have hcodes : 48 ≤ c.toNat ∧ c.toNat ≤ 57 := h
  simp [isBlank, blankRanges]
  omega

theorem trim_of_notBlank (h : ∀ c ∈ s, isBlank c = false) : trim s = s := by
  have hdrop : ∀ {t : List Char}, (∀ c ∈ t, isBlank c = false) → t.dropWhile isBlank = t := by
    intro t ht
    cases t with
    | nil => rfl
    | cons c t => exact List.dropWhile_cons_of_neg (by simp [ht c (List.mem_cons_self ..)])
  unfold trim trimOf
  rw [hdrop h, hdrop (fun c hc => h c (List.mem_reverse.mp hc)), List.reverse_reverse]

theorem toString_notBlank (k : ℤ) : ∀ c ∈ (toString k).toList, isBlank c = false := by
  have hdigits (n : ℕ) : ∀ c ∈ Nat.toDigits 10 n, isBlank c = false := fun c hc =>
    isBlank_of_isDigit (isDigit_of_mem_toDigits n c hc)
  rw [toString_toList]
  split
  · exact List.forall_mem_cons.mpr ⟨by decide, hdigits _⟩
  · exact hdigits _

end Text

/-! ### The functions -/

namespace Expression

open Number (minInt maxInt maxInt64)

/-- The integers of 64 bits with a sign. -/
def Fits64 (i : ℤ) : Prop := minInt ≤ i ∧ i ≤ maxInt64

instance (i : ℤ) : Decidable (Fits64 i) := inferInstanceAs (Decidable (minInt ≤ i ∧ i ≤ maxInt64))

theorem fits64_clamp (i : ℤ) : Fits64 (clamp i) := by
  unfold Fits64 clamp minInt maxInt64
  omega

theorem clamp_eq_self_iff {i : ℤ} : clamp i = i ↔ Fits64 i := by
  unfold Fits64 clamp minInt maxInt64
  omega

theorem clamp_of_large {i : ℤ} (h : maxInt64 < i) : clamp i = maxInt64 := by
  unfold clamp minInt maxInt64 at *
  omega

theorem Fits64.int_eq {i : ℤ} (h : Fits64 i) : Json.int i = .num (.int i) := by
  have hkept : minInt ≤ i ∧ i ≤ maxInt := by
    unfold Fits64 minInt maxInt64 at h
    unfold minInt maxInt
    omega
  rw [Json.int, Number.ofInt, if_pos hkept]

theorem intFunction_of_int64 {n : Number} {i : ℤ} (h : n.int64? = some i) :
    intFunction [.num n] = .ok (.int i) := by
  simp only [intFunction, h]

theorem intFunction_of_none {n : Number} (h : n.int64? = none) :
    intFunction [.num n] = .ok (.int (clamp n.toDouble.trunc)) := by
  simp only [intFunction, h]

/-- `int` makes of a number the integer of 64 bits that is nearest to the truncated value. -/
theorem intFunction_num {n : Number} (h : n.Kept) :
    intFunction [.num n] = .ok (.num (.int (clamp (truncated n.value)))) := by
  rw [← (fits64_clamp _).int_eq]
  cases n with
  | float x => rw [intFunction_of_none rfl, ← x.trunc_eq]; rfl
  | int i =>
      have hvalue : truncated (Number.int i).value = i := truncated_intCast i
      rw [hvalue]
      rcases Int.lt_or_le maxInt64 i with hlarge | hle
      · have hnone : (Number.int i).int64? = none := if_neg hlarge.not_ge
        have htrunc : clamp (Number.int i).toDouble.trunc = maxInt64 :=
          clamp_of_large (Double.trunc_ofInt_of_large hlarge)
        rw [intFunction_of_none hnone, htrunc, clamp_of_large hlarge]
      · have hsome : (Number.int i).int64? = some i := if_pos hle
        rw [intFunction_of_int64 hsome, clamp_eq_self_iff.mpr ⟨h.1, hle⟩]

theorem intFunction_text {k : ℤ} (h : Fits64 k) :
    intFunction [.str (toString k)] = .ok (.num (.int k)) := by
  have hread : readInteger? (Text.trim (toString k).toList) = some k := by
    rw [Text.trim_of_notBlank (Text.toString_notBlank k), readInteger?, Text.intOf?_toString]
    exact Option.filter_some_pos (decide_eq_true h)
  simp only [intFunction, hread]
  rw [h.int_eq]

/-- The outcome of a function of the language for one value. -/
def calling (function : String) (v : Json) : Except Error Json :=
  (Expression.call function [.literal v] 0).eval (fun _ => none) .builtin

theorem calling_of_ok (function : String) {f : Function} {v w : Json}
    (hf : Functions.builtin function = some f) (hw : f [v] = .ok w) :
    calling function v = .ok w := by
  have hvalues : argumentValues (fun _ => none) [.literal v] = .ok [v] := rfl
  rw [calling, eval, hf]
  simp only [hvalues, ok_bind, hw]

/-! ### The main result -/

/-- **What `int` is.**  It has a value for every number: the number truncated toward zero, or else
the nearest integer of 64 bits.  So it is exact if and only if the truncated value has 64 bits.  And
the text of an integer of 64 bits is read back as that integer. -/
theorem int_truncates {n : Number} {k : ℤ} (hn : n.Kept) (hk : Fits64 k) :
    calling "int" (.num n) = .ok (.num (.int (clamp (truncated n.value)))) ∧
    (calling "int" (.num n) = .ok (.num (.int (truncated n.value))) ↔ Fits64 (truncated n.value)) ∧
    ∃ text, calling "str" (.num (.int k)) = .ok text ∧
      calling "int" text = .ok (.num (.int k)) := by
  have hint := calling_of_ok "int" rfl (intFunction_num hn)
  refine ⟨hint, ?_, .str (toString k), calling_of_ok "str" rfl ?_, ?_⟩
  · rw [hint, Except.ok.injEq, Json.num.injEq, Number.int.injEq]
    exact clamp_eq_self_iff
  · rfl
  · exact calling_of_ok "int" rfl (intFunction_text hk)

/-- The greatest integer without a sign becomes the greatest one with a sign, and the least one with
a sign goes through its text. -/
theorem int_truncates_sample :
    (Number.int 18446744073709551615).Kept ∧ Fits64 (-9223372036854775808) ∧
    calling "int" (.num (.int 18446744073709551615)) = .ok (.num (.int 9223372036854775807)) ∧
    ∃ text, calling "str" (.num (.int (-9223372036854775808))) = .ok text ∧
      calling "int" text = .ok (.num (.int (-9223372036854775808))) := by
  have hkept : (Number.int 18446744073709551615).Kept := by
    unfold Number.Kept
    decide
  have hfits : Fits64 (-9223372036854775808) := by decide
  have hvalue : truncated (Number.int 18446744073709551615).value = 18446744073709551615 :=
    truncated_intCast 18446744073709551615
  obtain ⟨hint, -, htext⟩ := int_truncates hkept hfits
  rw [hvalue] at hint
  exact ⟨hkept, hfits, hint, htext⟩

/-- **`int` changes integers beyond 64 bits with a sign.**  The first of them, `2 ^ 63`, is given
back less one, though its text is refused. -/
theorem int_clamps :
    ¬ (∀ n : Number, n.Kept → (∃ e, calling "int" (.num n) = .error e) ∨
      calling "int" (.num n) = .ok (.num (.int (truncated n.value)))) ∧
    calling "int" (.num (.int 9223372036854775808)) =
      .ok (.num (.int 9223372036854775807)) ∧
    ∃ e, calling "int" (.str "9223372036854775808") = .error e := by
  have hkept : (Number.int 9223372036854775808).Kept := by
    unfold Number.Kept
    decide
  have hvalue : truncated (Number.int 9223372036854775808).value = 9223372036854775808 :=
    truncated_intCast 9223372036854775808
  have hint : calling "int" (.num (.int 9223372036854775808)) =
      .ok (.num (.int 9223372036854775807)) := by
    have hclamp := calling_of_ok "int" rfl (intFunction_num hkept)
    rw [hvalue] at hclamp
    exact hclamp
  refine ⟨fun h => ?_, hint, _, rfl⟩
  rcases h _ hkept with ⟨e, he⟩ | hexact
  · rw [hint] at he
    cases he
  · rw [hint, hvalue] at hexact
    revert hexact
    decide

end Expression
end Docket
