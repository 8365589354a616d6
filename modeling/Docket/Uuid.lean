/-!
# Record identifiers

An identifier has 128 bits.  It is written as 32 hexadecimal digits in groups of 8, 4, 4, 4 and 12.
Reading takes this form in any case of letters, also in braces or after the scheme `urn:uuid:`, and
the digits without hyphens.  Identifiers are ordered as numbers.
-/

namespace Docket

/-- An identifier of 128 bits. -/
structure Uuid where
  bits : BitVec 128
  deriving DecidableEq, Repr, Inhabited

namespace Uuid

instance : LE Uuid := ⟨fun a b => a.bits.toNat ≤ b.bits.toNat⟩
instance : LT Uuid := ⟨fun a b => a.bits.toNat < b.bits.toNat⟩
instance : DecidableLT Uuid := fun a b => inferInstanceAs (Decidable (a.bits.toNat < b.bits.toNat))

theorem le_def {a b : Uuid} : a ≤ b ↔ a.bits.toNat ≤ b.bits.toNat := Iff.rfl

theorem lt_def {a b : Uuid} : a < b ↔ a.bits.toNat < b.bits.toNat := Iff.rfl

instance : Std.IsLinearOrder Uuid where
  le_refl _ := Nat.le_refl _
  le_trans _ _ _ := Nat.le_trans
  le_antisymm a b h h' := by
    cases a; cases b
    exact congrArg Uuid.mk (BitVec.eq_of_toNat_eq (Nat.le_antisymm h h'))
  le_total _ _ := Nat.le_total _ _

instance : Std.LawfulOrderLT Uuid where
  lt_iff _ _ := by rw [lt_def, le_def, le_def]; omega

/-- The identifier all of whose bits are zero. -/
def nil : Uuid := ⟨0⟩

/-- The sizes of the groups of digits. -/
def groups : List Nat := [8, 4, 4, 4, 12]

/-- Hyphens between the groups of a list of digits. -/
def hyphenate : List Nat → List Char → List Char
  | [], _ => []
  | [n], digits => digits.take n
  | n :: rest, digits => digits.take n ++ '-' :: hyphenate rest (digits.drop n)

def write (id : Uuid) : String :=
  let digits := Nat.toDigits 16 id.bits.toNat
  String.ofList (hyphenate groups (List.replicate (32 - digits.length) '0' ++ digits))

def digit? (c : Char) : Option Nat :=
  if c.isDigit then some (c.toNat - '0'.toNat)
  else if 'a' ≤ c ∧ c ≤ 'f' then some (c.toNat - 'a'.toNat + 10)
  else if 'A' ≤ c ∧ c ≤ 'F' then some (c.toNat - 'A'.toNat + 10)
  else none

/-- The identifier with the given digits, of which there must be 32. -/
def ofDigits? (digits : List Char) : Option Uuid :=
  if digits.length = 32 then
    (digits.foldlM (fun n c => (digit? c).map (n * 16 + ·)) 0).map fun n => ⟨BitVec.ofNat 128 n⟩
  else none

/-- The digits of a text that has hyphens just between its groups. -/
def ungroup : List Nat → List Char → Option (List Char)
  | [], s => if s.isEmpty then some [] else none
  | [n], s => if s.length = n then some s else none
  | n :: rest, s =>
    match s.drop n with
    | '-' :: more => (ungroup rest more).map (s.take n ++ ·)
    | _ => none

/-- What may stand before the hyphenated form, in any case of letters. -/
def scheme : List Char := "urn:uuid:".toList

/-- What stands in the place of the hyphenated form: the text itself, or what is left of it without
braces or the scheme. -/
def unwrap (s : List Char) : List Char :=
  match s with
  | '\x7b' :: rest => if rest.getLast? = some '\x7d' then rest.dropLast else s
  | _ => if (s.take scheme.length).map Char.toLower = scheme then s.drop scheme.length else s

/-- The identifier that a text names. -/
def read? (text : String) : Option Uuid :=
  let s := text.toList
  if s.length = 32 then ofDigits? s
  else (ungroup groups (unwrap s)).bind ofDigits?

end Uuid
end Docket
