import Docket.Double
import Mathlib.Algebra.Order.Group.Int
import Mathlib.Data.Nat.Log
import Mathlib.Tactic.NormNum
import Mathlib.Tactic.Ring

/-! # Integers among the floating-point numbers

A floating-point number keeps 53 bits of an integer.  `rounded` is the integer that is left of it:
the nearest multiple of a power of two that has no more bits, and of two that are equally near the
one with the even mantissa.  The number nearest to an integer stands for exactly that
(`ofInt_units`).

An integer of at most 53 bits, and `2 ^ 53` itself, is left as it is (`rounded_eq_self`).  Rounding
keeps the order (`rounded_mono`), and in 64 bits it moves an integer by at most 1024
(`rounded_near`). -/

namespace Docket.Double

/-! ### Quotients -/

section Quotient

variable {m n num den : ℕ}

theorem halfEven_cases (num den : ℕ) :
    (halfEven num den = num / den ∧ 2 * (num % den) ≤ den) ∨
      (halfEven num den = num / den + 1 ∧ den ≤ 2 * (num % den)) := by
  simp only [halfEven]
  split
  · exact .inl ⟨rfl, by omega⟩
  · split
    · exact .inr ⟨rfl, by omega⟩
    · split
      · exact .inl ⟨rfl, by omega⟩
      · exact .inr ⟨rfl, by omega⟩

/-- A quotient without a remainder is not rounded. -/
theorem halfEven_of_dvd (hden : 0 < den) (h : den ∣ num) : halfEven num den = num / den := by
  have hmod : num % den = 0 := Nat.mod_eq_zero_of_dvd h
  rcases halfEven_cases num den with ⟨heq, -⟩ | ⟨-, hle⟩
  · exact heq
  · omega

theorem halfEven_mul_right (num den : ℕ) {k : ℕ} (hk : 0 < k) :
    halfEven (num * k) (den * k) = halfEven num den := by
  have hlt : 2 * (num % den * k) < den * k ↔ 2 * (num % den) < den := by
    rw [← Nat.mul_assoc, Nat.mul_lt_mul_right hk]
  have hgt : den * k < 2 * (num % den * k) ↔ den < 2 * (num % den) := by
    rw [← Nat.mul_assoc, Nat.mul_lt_mul_right hk]
  simp only [halfEven, Nat.mul_div_mul_right _ _ hk, Nat.mul_mod_mul_right, hlt, hgt]

theorem halfEven_mono (h : m ≤ n) (den : ℕ) : halfEven m den ≤ halfEven n den := by
  have hle : m / den ≤ n / den := Nat.div_le_div_right h
  rcases hle.lt_or_eq with hlt | heq
  · calc halfEven m den ≤ m / den + 1 := halfEven_le m den
      _ ≤ n / den := hlt
      _ ≤ halfEven n den := le_halfEven n den
  · -- with equal quotients it is the remainders that decide
    have hmod : m % den ≤ n % den := by
      have hm := Nat.div_add_mod m den
      have hn := Nat.div_add_mod n den
      rw [heq] at hm
      omega
    simp only [halfEven, heq]
    split_ifs <;> omega

theorem halfEven_near (num : ℕ) (hden : 0 < den) :
    2 * num ≤ 2 * (halfEven num den * den) + den ∧
      2 * (halfEven num den * den) ≤ 2 * num + den := by
  have hdiv := Nat.div_add_mod num den
  have hmod := Nat.mod_lt num hden
  rw [Nat.mul_comm] at hdiv
  rcases halfEven_cases num den with ⟨heq, hle⟩ | ⟨heq, hle⟩
  · rw [heq]
    omega
  · rw [heq, Nat.add_one_mul (num / den)]
    omega

end Quotient

/-! ### The nearest number -/

/-- The magnitude of the nearest number is the quotient rounded at the unit of its exponent. -/
theorem nearest_magnitude (num den : ℕ) :
    (nearest num den).magnitude =
      halfEven num (den * 2 ^ shift (num / den)) * 2 ^ shift (num / den) := by
  unfold nearest
  simp only [Nat.pow_eq]
  split
  · rfl
  · next h =>
    -- the rounded mantissa has one bit too many, so it is the smallest number with 54 bits
    have hle := halfEven_le num (den * 2 ^ shift (num / den))
    have hlt := div_shift_lt (num / den)
    rw [Nat.div_div_eq_div_mul] at hlt
    simp only [Nat.pow_eq] at hlt h
    have heq : halfEven num (den * 2 ^ shift (num / den)) = 2 ^ 53 := by omega
    rw [heq]
    unfold magnitude
    simp only [Nat.pow_eq]
    rw [pow_succ]
    ring

/-! ### Mantissas -/

section Mantissa

variable {n k : ℕ}

theorem shift_of_lt (h : n < 2 ^ 53) : shift n = 0 := if_pos h

theorem shift_of_le (h : 2 ^ 53 ≤ n) : shift n = Nat.log2 n - 52 := if_neg h.not_gt

theorem log2_of_le (h : 2 ^ 53 ≤ n) : 53 ≤ Nat.log2 n := (le_log2_of_le h.not_gt).2

theorem log2_mul_pow (hn : n ≠ 0) (k : ℕ) : Nat.log2 (n * 2 ^ k) = Nat.log2 n + k := by
  have hpos : 0 < 2 ^ k := Nat.two_pow_pos k
  refine (Nat.log2_eq_iff (Nat.mul_ne_zero hn hpos.ne')).mpr ⟨?_, ?_⟩
  · rw [pow_add]
    exact Nat.mul_le_mul_right _ (Nat.log2_self_le hn)
  · rw [Nat.add_right_comm, pow_add]
    exact (Nat.mul_lt_mul_right hpos).mpr Nat.lt_log2_self

/-- Where a number has more than 53 bits, so many zeros more raise its exponent. -/
theorem shift_mul_pow (h : 2 ^ 53 ≤ n) (k : ℕ) : shift (n * 2 ^ k) = shift n + k := by
  have hlog := log2_of_le h
  have hle : 2 ^ 53 ≤ n * 2 ^ k := h.trans (Nat.le_mul_of_pos_right n (Nat.two_pow_pos k))
  rw [shift_of_le h, shift_of_le hle, log2_mul_pow (by omega)]
  omega

theorem shift_mul_pow_le (h : n < 2 ^ 53) (k : ℕ) : shift (n * 2 ^ k) ≤ k := by
  rcases Nat.eq_zero_or_pos n with rfl | hn
  · rw [Nat.zero_mul, shift_of_lt (by norm_num)]
    exact Nat.zero_le k
  · have hlog : Nat.log2 n < 53 := (Nat.log2_lt hn.ne').mpr h
    rcases Nat.lt_or_ge (n * 2 ^ k) (2 ^ 53) with hlt | hle
    · rw [shift_of_lt hlt]
      exact Nat.zero_le k
    · rw [shift_of_le hle, log2_mul_pow hn.ne']
      omega

theorem shift_mono {m n : ℕ} (h : m ≤ n) : shift m ≤ shift n := by
  rcases Nat.lt_or_ge m (2 ^ 53) with hm | hm
  · rw [shift_of_lt hm]
    exact Nat.zero_le _
  · rw [shift_of_le hm, shift_of_le (hm.trans h), Nat.log2_eq_log_two, Nat.log2_eq_log_two]
    exact Nat.sub_le_sub_right (Nat.log_mono_right h) 52

/-- The rounded mantissa has at most 53 bits, or is the smallest number with 54. -/
theorem halfEven_shift_le (n : ℕ) : halfEven n (2 ^ shift n) ≤ 2 ^ 53 := by
  have hlt := div_shift_lt n
  have hle := halfEven_le n (2 ^ shift n)
  simp only [Nat.pow_eq] at hlt
  omega

end Mantissa

/-! ### Rounding integers -/

/-- What 53 bits keep of a natural number. -/
def kept (n : ℕ) : ℕ := halfEven n (2 ^ shift n) * 2 ^ shift n

theorem kept_of_lt {n : ℕ} (h : n < 2 ^ 53) : kept n = n := by
  rw [kept, shift_of_lt h, pow_zero, halfEven_of_dvd Nat.one_pos (one_dvd n), Nat.div_one,
    Nat.mul_one]

theorem kept_eq_self {n : ℕ} (h : n ≤ 2 ^ 53) : kept n = n := by
  rcases h.lt_or_eq with hlt | rfl
  · exact kept_of_lt hlt
  · decide +kernel

theorem kept_mono {m n : ℕ} (h : m ≤ n) : kept m ≤ kept n := by
  rcases (shift_mono h).eq_or_lt with heq | hlt
  · unfold kept
    rw [heq]
    exact Nat.mul_le_mul_right _ (halfEven_mono h _)
  · -- the larger number has a unit at least twice as large, and at least half the mantissa
    have hmant : 2 ^ 52 ≤ halfEven n (2 ^ shift n) := by
      rcases le_div_shift n with hzero | hle
      · omega
      · exact hle.trans (le_halfEven n _)
    calc kept m ≤ 2 ^ 53 * 2 ^ shift m := Nat.mul_le_mul_right _ (halfEven_shift_le m)
      _ = 2 ^ 52 * 2 ^ (shift m + 1) := by ring
      _ ≤ 2 ^ 52 * 2 ^ shift n := Nat.mul_le_mul_left _ (Nat.pow_le_pow_right (by norm_num) hlt)
      _ ≤ kept n := Nat.mul_le_mul_right _ hmant

/-- In 64 bits the unit is at most 2048, and rounding moves a number by at most half of it. -/
theorem kept_near {n : ℕ} (h : n < 2 ^ 64) : n ≤ kept n + 1024 ∧ kept n ≤ n + 1024 := by
  have hshift : shift n ≤ 11 := by
    rcases Nat.lt_or_ge n (2 ^ 53) with hlt | hle
    · rw [shift_of_lt hlt]
      norm_num
    · have hlog : Nat.log2 n < 64 := (Nat.log2_lt (by omega)).mpr h
      rw [shift_of_le hle]
      omega
  have hunit : 2 ^ shift n ≤ 2 ^ 11 := Nat.pow_le_pow_right (by norm_num) hshift
  obtain ⟨hbelow, habove⟩ := halfEven_near n (Nat.two_pow_pos (shift n))
  unfold kept
  omega

theorem kept_zero : kept 0 = 0 := kept_eq_self (Nat.zero_le _)

theorem one_eq_pow : ∃ k, one = 2 ^ k := by
  unfold one
  generalize 1074 = k
  exact ⟨k, Nat.pow_eq⟩

theorem one_pos : 0 < one := by
  obtain ⟨k, hone⟩ := one_eq_pow
  rw [hone]
  exact Nat.two_pow_pos k

theorem nearest_one (n : ℕ) : (nearest (n * one) 1).magnitude = kept n * one := by
  obtain ⟨k, hone⟩ := one_eq_pow
  rw [nearest_magnitude, Nat.div_one, Nat.one_mul, hone]
  rcases Nat.lt_or_ge n (2 ^ 53) with hlt | hle
  · have hdvd : 2 ^ shift (n * 2 ^ k) ∣ n * 2 ^ k :=
      (pow_dvd_pow 2 (shift_mul_pow_le hlt k)).trans (Nat.dvd_mul_left _ n)
    rw [halfEven_of_dvd (Nat.two_pow_pos _) hdvd, Nat.div_mul_cancel hdvd, kept_of_lt hlt]
  · rw [shift_mul_pow hle, pow_add, halfEven_mul_right _ _ (Nat.two_pow_pos k), kept, Nat.mul_assoc]

/-- What 53 bits keep of an integer. -/
def rounded (i : ℤ) : ℤ := i.sign * kept i.natAbs

theorem rounded_natCast (n : ℕ) : rounded n = kept n := by
  rcases Nat.eq_zero_or_pos n with rfl | hn
  · simp [rounded, kept_zero]
  · simp [rounded, Int.sign_eq_one_of_pos (Int.natCast_pos.mpr hn)]

theorem rounded_neg (i : ℤ) : rounded (-i) = -rounded i := by
  simp [rounded, Int.sign_neg]

/-- **Integers of at most 53 bits are kept.** -/
theorem rounded_eq_self {i : ℤ} (h : i.natAbs ≤ 2 ^ 53) : rounded i = i := by
  rw [rounded, kept_eq_self h, Int.sign_mul_natAbs]

/-- **Rounding keeps the order of integers.** -/
theorem rounded_mono {i j : ℤ} (h : i ≤ j) : rounded i ≤ rounded j := by
  rcases Int.le_total 0 i with hi | hi
  · obtain ⟨m, rfl⟩ := Int.eq_ofNat_of_zero_le hi
    obtain ⟨n, rfl⟩ := Int.eq_ofNat_of_zero_le (hi.trans h)
    rw [rounded_natCast, rounded_natCast]
    exact Int.ofNat_le.mpr (kept_mono (Int.ofNat_le.mp h))
  · obtain ⟨m, rfl⟩ := Int.exists_eq_neg_ofNat hi
    rw [rounded_neg, rounded_natCast]
    rcases Int.le_total 0 j with hj | hj
    · obtain ⟨n, rfl⟩ := Int.eq_ofNat_of_zero_le hj
      rw [rounded_natCast]
      omega
    · obtain ⟨n, rfl⟩ := Int.exists_eq_neg_ofNat hj
      rw [rounded_neg, rounded_natCast]
      have hkept : kept n ≤ kept m := kept_mono (by omega)
      omega

/-- **In 64 bits, rounding moves an integer by at most 1024.** -/
theorem rounded_near {i : ℤ} (h : i.natAbs < 2 ^ 64) : |rounded i - i| ≤ 1024 := by
  have hnear := kept_near h
  rcases Int.le_total 0 i with hi | hi
  · obtain ⟨n, rfl⟩ := Int.eq_ofNat_of_zero_le hi
    rw [rounded_natCast, abs_le]
    rw [Int.natAbs_natCast] at hnear
    omega
  · obtain ⟨n, rfl⟩ := Int.exists_eq_neg_ofNat hi
    rw [rounded_neg, rounded_natCast, abs_le]
    rw [Int.natAbs_neg, Int.natAbs_natCast] at hnear
    omega

theorem units_withSign (negative : Bool) (x : Double) :
    (x.withSign negative).units = if negative then -(x.magnitude : ℤ) else x.magnitude := rfl

/-- **The number nearest to an integer stands for what 53 bits keep of it.** -/
theorem ofInt_units (i : ℤ) : (ofInt i).units = rounded i * one := by
  rw [ofInt, units_withSign, nearest_one, rounded]
  generalize one = unit
  rcases lt_trichotomy i 0 with hi | rfl | hi
  · rw [Int.sign_eq_neg_one_of_neg hi]
    simp [hi]
  · simp [kept_zero]
  · rw [Int.sign_eq_one_of_pos hi]
    simp [hi.not_gt]

end Docket.Double
