/-!
# Binary floating-point numbers

A `Double` is a number with a mantissa of 53 bits and a power of two: the 64-bit binary format
without its infinities and its undefined values.  It is kept as the format keeps it (sign,
mantissa, exponent), and every operation is integer arithmetic on the number's *units*, the exact
multiple of the smallest positive number `2 ^ -1074` that it stands for.  Two numbers are compared
exactly by their units, and a number that does not fit is rounded once, to the nearest neighbour
and a half to the even one (`nearest`).

The lemmas here are the bounds that the format asks of a rounded number: a mantissa of at most 53
bits (`div_shift_lt`) whose leading bit is set unless the exponent is the smallest one
(`le_div_shift`).
-/

namespace Docket

/-- The number `± mant * 2 ^ exp` units of `2 ^ -1074`, with the leading bit of the mantissa set
unless the exponent is the smallest one. -/
structure Double where
  negative : Bool
  mant : Nat
  exp : Nat
  mant_lt : mant < Nat.pow 2 53
  mant_ge : exp = 0 ∨ Nat.pow 2 52 ≤ mant
  deriving DecidableEq, Repr

namespace Double

/-- How many units make up the number one. -/
def one : Nat := Nat.pow 2 1074

/-- The largest exponent of the 64-bit format. -/
def maxExp : Nat := 2045

/-- The distance from zero, in units. -/
def magnitude (x : Double) : Nat := x.mant * Nat.pow 2 x.exp

/-- The exact value, in units. -/
def units (x : Double) : Int := if x.negative then -(x.magnitude : Int) else x.magnitude

def zero (negative : Bool) : Double := ⟨negative, 0, 0, by decide, .inl rfl⟩

instance : Inhabited Double := ⟨zero false⟩

/-- The same distance from zero on the other side. -/
def neg (x : Double) : Double := { x with negative := !x.negative }

/-- The same distance from zero with the given sign. -/
def withSign (negative : Bool) (x : Double) : Double := { x with negative := negative }

/-- Whether the number is zero, of either sign. -/
def isZero (x : Double) : Bool := x.mant == 0

/-- Whether the number belongs to the 64-bit format, which ends below `2 ^ 1024`. -/
def inRange (x : Double) : Bool := x.exp ≤ maxExp

/-! ## Rounding -/

/-- The quotient of two natural numbers, rounded to the nearest one and a half to the even one. -/
def halfEven (num den : Nat) : Nat :=
  let q := num / den
  let r := num % den
  if 2 * r < den then q
  else if den < 2 * r then q + 1
  else if q % 2 = 0 then q else q + 1

theorem halfEven_le (num den : Nat) : halfEven num den ≤ num / den + 1 := by
  simp only [halfEven]
  repeat' split
  all_goals omega

theorem le_halfEven (num den : Nat) : num / den ≤ halfEven num den := by
  simp only [halfEven]
  repeat' split
  all_goals omega

/-- The exponent that leaves a whole number of units a mantissa of 53 bits, or zero where fewer
bits are there. -/
def shift (n : Nat) : Nat := if n < Nat.pow 2 53 then 0 else Nat.log2 n - 52

theorem le_log2_of_le {n : Nat} (h : ¬ n < Nat.pow 2 53) : n ≠ 0 ∧ 53 ≤ Nat.log2 n := by
  have hn : n ≠ 0 := by rintro rfl; simp at h
  exact ⟨hn, (Nat.le_log2 hn).2 (Nat.le_of_not_lt h)⟩

theorem div_shift_lt (n : Nat) : n / Nat.pow 2 (shift n) < Nat.pow 2 53 := by
  unfold shift
  split
  · next h => simpa using h
  · next h =>
    obtain ⟨hn, hlog⟩ := le_log2_of_le h
    have hlt : n < Nat.pow 2 (Nat.log2 n + 1) := (Nat.log2_lt hn).1 (Nat.lt_succ_self _)
    simp only [Nat.pow_eq] at hlt ⊢
    rw [Nat.div_lt_iff_lt_mul (Nat.two_pow_pos _), ← Nat.pow_add]
    have : 53 + (Nat.log2 n - 52) = Nat.log2 n + 1 := by omega
    rwa [this]

theorem le_div_shift (n : Nat) : shift n = 0 ∨ Nat.pow 2 52 ≤ n / Nat.pow 2 (shift n) := by
  unfold shift
  split
  · exact .inl rfl
  · next h =>
    obtain ⟨hn, hlog⟩ := le_log2_of_le h
    refine .inr ?_
    simp only [Nat.pow_eq]
    rw [Nat.le_div_iff_mul_le (Nat.two_pow_pos _), ← Nat.pow_add]
    have : 52 + (Nat.log2 n - 52) = Nat.log2 n := by omega
    rw [this]
    exact (Nat.le_log2 hn).1 (Nat.le_refl _)

/-- The number nearest to the quotient `num / den` of units, a half going to the even mantissa. -/
def nearest (num den : Nat) : Double :=
  let e := shift (num / den)
  let m := halfEven num (den * Nat.pow 2 e)
  if hm : m < Nat.pow 2 53 then
    ⟨false, m, e, hm, by
      rcases le_div_shift (num / den) with h | h
      · exact .inl h
      · refine .inr (Nat.le_trans h ?_)
        rw [Nat.div_div_eq_div_mul]
        exact le_halfEven _ _⟩
  else ⟨false, Nat.pow 2 52, e + 1, by decide, .inr (Nat.le_refl _)⟩

/-- The number nearest to an integer. -/
def ofInt (i : Int) : Double := (nearest (i.natAbs * one) 1).withSign (i < 0)

/-! ## Comparison and truncation -/

/-- The order of two numbers, in which the two zeros are equal. -/
def compare (x y : Double) : Ordering := Ord.compare x.units y.units

/-- Equality of value, in which the two zeros are equal. -/
def same (x y : Double) : Bool := x.units == y.units

/-- The number without its fraction, as an integer. -/
def trunc (x : Double) : Int := x.units.tdiv one

/-! ## Reading decimal numerals -/

/-- The number, if the 64-bit format holds it. -/
def checked (x : Double) : Option Double := if x.inRange then some x else none

/-- The number nearest to `digits * 10 ^ e`, or nothing where that lies beyond the format.  Numerals
far outside the format's range are told from their number of digits alone. -/
def ofDecimal (digits : Nat) (e : Int) : Option Double :=
  if digits = 0 then some (zero false)
  else
    let top : Int := (Nat.toDigits 10 digits).length + e
    if 310 < top then none
    else if top < -330 then some (zero false)
    else if 0 ≤ e then checked (nearest (digits * Nat.pow 10 e.toNat * one) 1)
    else checked (nearest (digits * one) (Nat.pow 10 (-e).toNat))

def pow10 (k : Nat) : Double := nearest (Nat.pow 10 k * one) 1

/-- The number nearest to the product of two numbers, which are taken without their signs. -/
def mul (x y : Double) : Double := nearest (x.magnitude * y.magnitude) one

/-- The number nearest to the quotient of two numbers, which are taken without their signs. -/
def div (x y : Double) : Double := nearest (x.magnitude * one) y.magnitude

/-- Scales a number by a power of ten with one rounded product or quotient.  Below `10 ^ -308` the
power is taken in several quotients; a product beyond the format is refused. -/
def scale10 (x : Double) (e : Int) : Option Double :=
  if x.isZero then some x
  else if 308 < e then none
  else if 0 ≤ e then checked (x.mul (pow10 e.toNat))
  else if e < -308 then scale10 (x.div (pow10 308)) (e + 308)
  else some (x.div (pow10 (-e).toNat))
termination_by (-e).toNat

end Double
end Docket
