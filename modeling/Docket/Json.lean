import Docket.Double
import Docket.Keyed

/-!
# JSON values

A record's data, the variables of an expression and every message between the parts of the system
are JSON values.  A number is an integer or a floating-point number and keeps which of the two it
is.  An object is a list of fields with strictly increasing names; `Json.insertField` and
`Json.object` keep it so, and reading a text builds objects through them, so a repeated name keeps
its last value.

Equality of the type distinguishes all that a text can show.  `Json.same` is equality of value: it
differs from equality only in taking the two zeros of floating-point numbers for one.
-/

namespace Docket

/-- A JSON number: an integer, which a text keeps from `-2 ^ 63` to below `2 ^ 64`, or a
floating-point number. -/
inductive Number where
  | int (value : Int)
  | float (value : Double)
  deriving DecidableEq, Repr, Inhabited

namespace Number

/-- The smallest integer that is kept as one. -/
def minInt : Int := -9223372036854775808

/-- The largest integer of 64 bits with a sign. -/
def maxInt64 : Int := 9223372036854775807

/-- The largest integer that is kept as one. -/
def maxInt : Int := 18446744073709551615

/-- The integer, or the floating-point number nearest to it where it lies beyond the integers. -/
def ofInt (i : Int) : Number :=
  if minInt ≤ i ∧ i ≤ maxInt then .int i else .float (Double.ofInt i)

/-- The floating-point number nearest to a number. -/
def toDouble : Number → Double
  | .int i => Double.ofInt i
  | .float x => x

/-- The integer that a number is, if it has 64 bits and a sign. -/
def int64? : Number → Option Int
  | .int i => if i ≤ maxInt64 then some i else none
  | .float _ => none

/-- Whether two numbers are of the same kind and value. -/
def same : Number → Number → Bool
  | .int i, .int j => i == j
  | .float x, .float y => x.same y
  | _, _ => false

end Number

/-- A JSON value. -/
inductive Json where
  | null
  | bool (value : Bool)
  | num (value : Number)
  | str (value : String)
  | arr (items : List Json)
  | obj (fields : List (String × Json))
  deriving Inhabited, Repr

namespace Json

mutual

/-- Whether two values are equal. -/
def beq : Json → Json → Bool
  | .null, .null => true
  | .bool a, .bool b => a == b
  | .num a, .num b => a == b
  | .str a, .str b => a == b
  | .arr a, .arr b => beqItems a b
  | .obj a, .obj b => beqFields a b
  | _, _ => false

def beqItems : List Json → List Json → Bool
  | [], [] => true
  | x :: xs, y :: ys => beq x y && beqItems xs ys
  | _, _ => false

def beqFields : List (String × Json) → List (String × Json) → Bool
  | [], [] => true
  | (k, x) :: xs, (l, y) :: ys => k == l && (beq x y && beqFields xs ys)
  | _, _ => false

end

mutual

theorem eq_of_beq : ∀ {a b : Json}, beq a b = true → a = b
  | .null, b, h => by cases b <;> simp_all [beq]
  | .bool _, b, h => by cases b <;> simp_all [beq]
  | .num _, b, h => by cases b <;> simp_all [beq]
  | .str _, b, h => by cases b <;> simp_all [beq]
  | .arr xs, b, h => by
    cases b with
    | arr ys => rw [beq] at h; rw [eq_of_beqItems h]
    | _ => simp [beq] at h
  | .obj xs, b, h => by
    cases b with
    | obj ys => rw [beq] at h; rw [eq_of_beqFields h]
    | _ => simp [beq] at h

theorem eq_of_beqItems : ∀ {a b : List Json}, beqItems a b = true → a = b
  | [], b, h => by cases b <;> simp_all [beqItems]
  | x :: xs, b, h => by
    cases b with
    | nil => simp [beqItems] at h
    | cons y ys =>
      rw [beqItems, Bool.and_eq_true] at h
      rw [eq_of_beq h.1, eq_of_beqItems h.2]

theorem eq_of_beqFields : ∀ {a b : List (String × Json)}, beqFields a b = true → a = b
  | [], b, h => by cases b <;> simp_all [beqFields]
  | (k, x) :: xs, b, h => by
    cases b with
    | nil => simp [beqFields] at h
    | cons y ys =>
      obtain ⟨l, y⟩ := y
      rw [beqFields, Bool.and_eq_true, Bool.and_eq_true] at h
      rw [LawfulBEq.eq_of_beq h.1, eq_of_beq h.2.1, eq_of_beqFields h.2.2]

end

mutual

theorem beq_refl : ∀ a : Json, beq a a = true
  | .null | .bool _ | .num _ | .str _ => by simp [beq]
  | .arr xs => by rw [beq]; exact beqItems_refl xs
  | .obj xs => by rw [beq]; exact beqFields_refl xs

theorem beqItems_refl : ∀ a : List Json, beqItems a a = true
  | [] => by simp [beqItems]
  | x :: xs => by rw [beqItems, beq_refl x, beqItems_refl xs]; rfl

theorem beqFields_refl : ∀ a : List (String × Json), beqFields a a = true
  | [] => by simp [beqFields]
  | (k, x) :: xs => by rw [beqFields, beq_refl x, beqFields_refl xs]; simp

end

instance : BEq Json := ⟨beq⟩

instance : LawfulBEq Json where
  eq_of_beq := eq_of_beq
  rfl := beq_refl _

instance : DecidableEq Json := fun a b =>
  if h : beq a b = true then isTrue (eq_of_beq h)
  else isFalse fun e => h (e ▸ beq_refl a)

mutual

/-- Whether two values are of the same kind and value at every depth. -/
def same : Json → Json → Bool
  | .null, .null => true
  | .bool a, .bool b => a == b
  | .num a, .num b => a.same b
  | .str a, .str b => a == b
  | .arr a, .arr b => sameItems a b
  | .obj a, .obj b => sameFields a b
  | _, _ => false

def sameItems : List Json → List Json → Bool
  | [], [] => true
  | x :: xs, y :: ys => same x y && sameItems xs ys
  | _, _ => false

def sameFields : List (String × Json) → List (String × Json) → Bool
  | [], [] => true
  | (k, x) :: xs, (l, y) :: ys => k == l && (same x y && sameFields xs ys)
  | _, _ => false

end

/-! ## Objects -/

/-- The fields of an object in increasing order of their names. -/
abbrev Fields := List (String × Json)

/-- Sets a field, keeping the names increasing. -/
def insertField (name : String) (value : Json) (fields : Fields) : Fields :=
  Keyed.put Prod.fst (name, value) fields

def Fields.get? (fields : Fields) (name : String) : Option Json :=
  (fields.find? fun f => f.1 = name).map Prod.snd

/-- The fields of a list in which a repeated name keeps its last value. -/
def Fields.ofList (fields : List (String × Json)) : Fields :=
  fields.foldl (fun acc f => insertField f.1 f.2 acc) []

/-- The object with the given fields, the last of equal names winning. -/
def object (fields : List (String × Json)) : Json := .obj (Fields.ofList fields)

/-- The object with the values of a table. -/
def ofTable (table : Table Json) : Json := .obj table.items

/-- The fields of a value as a table, if the value is an object. -/
def table? : Json → Option (Table Json)
  | .obj fields => some (Keyed.ofList fields)
  | _ => none

theorem get?_insertField (name other : String) (value : Json) (fields : Fields) :
    Fields.get? (insertField name value fields) other =
      if name = other then some value else Fields.get? fields other := by
  unfold Fields.get? insertField
  rw [Keyed.find?_put]
  split <;> simp_all

/-- A field of a value, if the value is an object that has it. -/
def field? (value : Json) (name : String) : Option Json :=
  match value with
  | .obj fields => Fields.get? fields name
  | _ => none

/-! ## Shorthands -/

/-- An integer as a value. -/
def int (i : Int) : Json := .num (Number.ofInt i)

/-- A count as a value. -/
def nat (n : Nat) : Json := int n

/-- A text, or null where there is none. -/
def text? : Option String → Json
  | none => .null
  | some s => .str s

/-- A list of texts. -/
def texts (items : List String) : Json := .arr (items.map .str)

end Json
end Docket
