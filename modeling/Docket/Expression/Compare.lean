import Docket.Expression
import Docket.Expression.Error

/-!
# Truth, equality, order and membership of values

Conditions treat values the way their designers expect.  Zero, the empty text, the empty list and
the empty object are false; a number equals another of the same value whatever their kinds; numbers
are ordered with numbers and texts with texts.  Equality looks into lists but not into objects, and
numbers of different kinds are compared as floating-point numbers.
-/

namespace Docket

namespace Number

/-- Equality of value, as floating-point numbers. -/
def equal (m n : Number) : Bool := m.toDouble.same n.toDouble

/-- The order of two numbers, as floating-point numbers. -/
def order (m n : Number) : Ordering := m.toDouble.compare n.toDouble

end Number

namespace Json

/-- Whether a condition takes the value for true. -/
def truthy : Json → Bool
  | .null => false
  | .bool b => b
  | .num n => !n.toDouble.isZero
  | .str s => !s.isEmpty
  | .arr items => !items.isEmpty
  | .obj fields => !fields.isEmpty

mutual

/-- Equality as expressions see it. -/
def equal : Json → Json → Bool
  | .num m, .num n => m.equal n
  | .arr xs, .arr ys => equalItems xs ys
  | x, y => same x y

def equalItems : List Json → List Json → Bool
  | [], [] => true
  | x :: xs, y :: ys => equal x y && equalItems xs ys
  | _, _ => false

end

/-- The order of two texts: that of their characters, the shorter one first. -/
def textOrder (s t : String) : Ordering :=
  if s < t then .lt else if s = t then .eq else .gt

/-- The order of two values, if both are numbers or both are texts. -/
def order : Json → Json → Except Expression.Misuse Ordering
  | .num m, .num n => .ok (m.order n)
  | .str s, .str t => .ok (textOrder s t)
  | x, y => .error (.order x.kind y.kind)

/-- Whether a text occurs in another. -/
def occurs (needle : List Char) : List Char → Bool
  | [] => needle.isEmpty
  | c :: rest => needle.isPrefixOf (c :: rest) || occurs needle rest

/-- Whether an item belongs to a container: an item of a list, a part of a text, the name of a field
of an object. -/
def member (item container : Json) : Except Expression.Misuse Bool :=
  match container with
  | .arr items => .ok (items.any fun x => equal x item)
  | .str text =>
    match item with
    | .str needle => .ok (occurs needle.toList text.toList)
    | other => .error (.textMember other.kind)
  | .obj fields =>
    match item with
    | .str name => .ok (Fields.get? fields name).isSome
    | _ => .ok false
  | other => .error (.notIterable other.kind)

/-- The item of a container at a key: a field of an object by its name, an item of a list by its
position from the start or, counted below zero, from the end, a character of a text by its position
from the start. -/
def item (target key : Json) : Except Expression.Misuse Json :=
  let found (x : Option Json) : Except Expression.Misuse Json :=
    match x with
    | some v => .ok v
    | none => .error (.missingKey key)
  match target, key with
  | .obj fields, .str name => found (Fields.get? fields name)
  | .arr items, .num n =>
    found (n.int64?.bind fun i =>
      let i := if i < 0 then items.length + i else i
      if i < 0 then none else items[i.toNat]?)
  | .str text, .num n =>
    found (n.int64?.bind fun i =>
      if i < 0 then none else text.toList[i.toNat]?.map fun c => .str c.toString)
  | _, _ => .error (.notSubscriptable target.kind key.kind)

/-- The text of a value in a template: nothing for null, a text as it is, everything else as
expressions write it. -/
def text : Json → String
  | .null => ""
  | .str s => s
  | .bool true => "True"
  | .bool false => "False"
  | other => other.write

end Json

/-- Whether a comparison holds between two values. -/
def Relation.holds (r : Relation) (left right : Json) : Except Expression.Misuse Bool :=
  match r with
  | .equal => .ok (left.equal right)
  | .notEqual => .ok (!left.equal right)
  | .less => return (← left.order right) == .lt
  | .lessEqual => return (← left.order right) != .gt
  | .greater => return (← left.order right) == .gt
  | .greaterEqual => return (← left.order right) != .lt
  | .member => left.member right
  | .notMember => return !(← left.member right)
  | .identical => .ok (left.same right)
  | .notIdentical => .ok (!left.same right)

end Docket
