/-!
# Digits

Decimal and hexadecimal digits of ASCII, the values of runs of digits, and integers with a sign.
-/

namespace Docket.Text

def isDigit (c : Char) : Bool := '0' ≤ c && c ≤ '9'

def digitValue (c : Char) : Nat := c.toNat - '0'.toNat

/-- The value of a run of digits. -/
def natOf (ds : List Char) : Nat := ds.foldl (fun n d => n * 10 + digitValue d) 0

@[simp] theorem natOf_nil : natOf [] = 0 := rfl

theorem natOf_concat (ds : List Char) (d : Char) : natOf (ds ++ [d]) = natOf ds * 10 + digitValue d := by
  simp [natOf]

/-- The integer that a text stands for: a sign or none, then at least one digit. -/
def intOf? (s : List Char) : Option Int :=
  let (minus, ds) := match s with
    | '-' :: ds => (true, ds)
    | '+' :: ds => (false, ds)
    | ds => (false, ds)
  if ds.isEmpty || !ds.all isDigit then none
  else some (if minus then -(natOf ds : Int) else natOf ds)

/-- The number that a hexadecimal digit stands for. -/
def hexValue? (c : Char) : Option Nat :=
  if isDigit c then some (digitValue c)
  else if 'a' ≤ c && c ≤ 'f' then some (c.toNat - 'a'.toNat + 10)
  else if 'A' ≤ c && c ≤ 'F' then some (c.toNat - 'A'.toNat + 10)
  else none

example : intOf? "-007".toList = some (-7) ∧ intOf? "+1".toList = some 1 := by decide

example : ["", "-", "+", "1.", " 1", "--1"].all (fun s => intOf? s.toList = none) = true := by decide

end Docket.Text
