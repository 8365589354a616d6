import Docket.Double

/-!
# The shortest decimal text of a number

The shortest numeral of a number is the one with the fewest digits among those that read back as
it, and of two such numerals the nearer one.  `Double.shortest` finds it by trying one digit, two
digits, and so on up to seventeen: on each decimal grid only the two neighbours of the number can
lie in the interval of values that round to it.  All of this is exact arithmetic on units.

How the digits are laid out is a matter of the text that is written.  A `Layout` states it:
`Layout.json` is the layout of values, `Layout.plain` the one of numerals quoted in messages.
-/

namespace Docket.Double

/-- Which of two numerals at the same distance is taken. -/
inductive Tie where
  | even
  | up
  deriving DecidableEq, Repr

/-- The values that round to a number, in quarters of a unit, and whether the two ends belong to
them. -/
structure Interval where
  low : Nat
  high : Nat
  closed : Bool
  deriving DecidableEq, Repr

/-- The interval of values that round to a number other than zero.  Below a power of two the
neighbour is only half as far away. -/
def interval (x : Double) : Interval :=
  let unit := Nat.pow 2 x.exp
  let below := if x.mant = Nat.pow 2 52 ∧ x.exp ≠ 0 then 1 else 2
  ⟨(4 * x.mant - below) * unit, (4 * x.mant + 2) * unit, x.mant % 2 = 0⟩

/-- Whether the fraction `num / den` of quarter units lies in the interval. -/
def Interval.holds (i : Interval) (num den : Nat) : Bool :=
  if i.closed then i.low * den ≤ num && num ≤ i.high * den
  else i.low * den < num && num < i.high * den

/-- A decimal numeral `digits * 10 ^ exponent`. -/
structure Numeral where
  digits : Nat
  exponent : Int
  deriving DecidableEq, Repr

/-- The numeral `digits * 10 ^ exponent` as a fraction of quarter units. -/
def Numeral.quarters (n : Numeral) : Nat × Nat :=
  (n.digits * Nat.pow 10 n.exponent.toNat * one * 4, Nat.pow 10 (-n.exponent).toNat)

def digitCount (n : Nat) : Nat := (Nat.toDigits 10 n).length

/-- The exponent of the leading decimal digit of a number other than zero. -/
def leading (x : Double) : Int := (digitCount (x.magnitude * Nat.pow 10 340 / one) : Int) - 341

/-- The numeral on the grid `10 ^ exponent` that reads back as the number, the nearer one of two. -/
def onGrid (tie : Tie) (x : Double) (exponent : Int) : Option Numeral :=
  let up := Nat.pow 10 (-exponent).toNat
  let down := Nat.pow 10 exponent.toNat * one
  let floor := x.magnitude * up / down
  let rest := x.magnitude * up % down
  let i := x.interval
  let fits (d : Nat) : Bool :=
    let q := Numeral.quarters ⟨d, exponent⟩
    i.holds q.1 q.2
  match fits floor, fits (floor + 1) with
  | true, true =>
    if 2 * rest < down then some ⟨floor, exponent⟩
    else if down < 2 * rest then some ⟨floor + 1, exponent⟩
    else if tie = .even ∧ floor % 2 = 0 then some ⟨floor, exponent⟩
    else some ⟨floor + 1, exponent⟩
  | true, false => some ⟨floor, exponent⟩
  | false, true => some ⟨floor + 1, exponent⟩
  | false, false => none

/-- The numeral without trailing zeros. -/
def Numeral.trim (n : Numeral) : Numeral :=
  if h : n.digits ≠ 0 ∧ n.digits % 10 = 0 then
    Numeral.trim ⟨n.digits / 10, n.exponent + 1⟩
  else n
termination_by n.digits
decreasing_by
  obtain ⟨h0, _⟩ := h
  exact Nat.div_lt_self (Nat.pos_of_ne_zero h0) (by decide)

/-- Tries `count`, `count + 1`, … digits, at most `tries` times. -/
def shortestFrom (tie : Tie) (x : Double) (count : Nat) : (tries : Nat) → Numeral
  | 0 => ⟨x.magnitude * Nat.pow 10 340 / one, -340⟩
  | tries + 1 =>
    match onGrid tie x (x.leading - count + 1) with
    | some n => n.trim
    | none => shortestFrom tie x (count + 1) tries

/-- The shortest numeral of a number other than zero; seventeen digits always suffice. -/
def shortest (tie : Tie) (x : Double) : Numeral := shortestFrom tie x 1 17

/-- How the digits of a numeral are written. -/
structure Layout where
  /-- Leading exponents outside these bounds are written in scientific notation; without bounds no
  number is. -/
  positional : Option (Int × Int)
  /-- Whether a whole number ends in `.0`. -/
  wholePoint : Bool
  tie : Tie
  deriving Repr

/-- Values: positional from `10 ^ -5` to below `10 ^ 16`, with at least one digit after the point. -/
def Layout.json : Layout := ⟨some (-5, 15), true, .even⟩

/-- Numerals quoted in messages: always positional, and whole numbers without a point. -/
def Layout.plain : Layout := ⟨none, false, .up⟩

def zeros (n : Nat) : String := String.ofList (List.replicate n '0')

def Numeral.positional (wholePoint : Bool) (n : Numeral) : String :=
  let ds := Nat.toDigits 10 n.digits
  if 0 ≤ n.exponent then
    String.ofList ds ++ zeros n.exponent.toNat ++ (if wholePoint then ".0" else "")
  else
    let places := (-n.exponent).toNat
    if places < ds.length then
      String.ofList (ds.take (ds.length - places)) ++ "." ++
        String.ofList (ds.drop (ds.length - places))
    else "0." ++ zeros (places - ds.length) ++ String.ofList ds

/-- A numeral in scientific notation, the exponent always with a sign. -/
def Numeral.scientific (n : Numeral) : String :=
  let ds := Nat.toDigits 10 n.digits
  let e := n.exponent + (ds.length - 1 : Nat)
  let fraction := ds.drop 1
  String.ofList (ds.take 1) ++
    (if fraction.isEmpty then "" else "." ++ String.ofList fraction) ++
    "e" ++ (if e < 0 then "-" else "+") ++ toString e.natAbs

def Layout.write (layout : Layout) (x : Double) : String :=
  let sign := if x.negative then "-" else ""
  if x.isZero then sign ++ (if layout.wholePoint then "0.0" else "0")
  else
    let n := x.shortest layout.tie
    let e := n.exponent + (digitCount n.digits - 1 : Nat)
    let isPositional := match layout.positional with
      | none => true
      | some (low, high) => low ≤ e && e ≤ high
    sign ++ (if isPositional then n.positional layout.wholePoint else n.scientific)

end Docket.Double
