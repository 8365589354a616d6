import Docket.Expression.Compare
import Docket.Text.Blank
import Docket.Text.Digits
import Docket.Text.LetterCase

/-!
# Functions of expressions

An expression may call only the functions of its registry.  A registry gives the function of a name,
and a function gives a value or a message.  `Functions.builtin` has the five functions of the
language: `len`, `lower`, `upper`, `str` and `int`.
-/

namespace Docket.Expression

/-- A function that expressions may call. -/
abbrev Function := List Json → Except String Json

/-- The functions that expressions may call, by their names. -/
abbrev Functions := String → Option Function

def Functions.empty : Functions := fun _ => none

def Functions.register (functions : Functions) (name : String) (function : Function) : Functions :=
  fun n => if n = name then some function else functions n

/-- The number of characters, items or fields. -/
def lenFunction : Function
  | [.str s] => .ok (.nat s.length)
  | [.arr items] => .ok (.nat items.length)
  | [.obj fields] => .ok (.nat fields.length)
  | [other] => .error ("object of type " ++ other.kind.name ++ " has no len()")
  | _ => .error "len() takes exactly one argument"

def lowerFunction : Function
  | [.str s] => .ok (.str (Text.lower s))
  | _ => .error "lower() takes one string argument"

def upperFunction : Function
  | [.str s] => .ok (.str (Text.upper s))
  | _ => .error "upper() takes one string argument"

def strFunction : Function
  | [value] => .ok (.str value.text)
  | _ => .error "str() takes exactly one argument"

/-- The nearest integer of 64 bits with a sign. -/
def clamp (i : Int) : Int := max Number.minInt (min Number.maxInt64 i)

/-- The integer that a text stands for: a sign or none, then digits, within 64 bits. -/
def readInteger? (s : List Char) : Option Int :=
  (Text.intOf? s).filter fun i => Number.minInt ≤ i ∧ i ≤ Number.maxInt64

/-- A number of 64 bits as it is, any other number without its fraction and clamped to 64 bits, the
integer that a text stands for, one for true and zero for false. -/
def intFunction : Function
  | [.num n] =>
    .ok (.int (match n.int64? with
      | some i => i
      | none => clamp n.toDouble.trunc))
  | [.str s] =>
    match readInteger? (Text.trim s.toList) with
    | some i => .ok (.int i)
    | none => .error ("invalid literal for int(): '" ++ s ++ "'")
  | [.bool b] => .ok (.int (if b then 1 else 0))
  | _ => .error "int() takes one number or string argument"

/-- The functions of the language. -/
def Functions.builtin : Functions := fun name =>
  match name with
  | "len" => some lenFunction
  | "lower" => some lowerFunction
  | "upper" => some upperFunction
  | "str" => some strFunction
  | "int" => some intFunction
  | _ => none

end Docket.Expression
