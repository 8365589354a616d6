/-!
# Percent signs in addresses

A character that may not stand in an address is written as the bytes of its UTF-8 form, each as a
percent sign and two hexadecimal digits.  Reading back takes digits in any case, leaves a percent
sign without two digits as it is, and fails where the bytes are no UTF-8.
-/

namespace Docket.Percent

/-- A hexadecimal digit in upper case. -/
def hexDigit (n : Nat) : Char := (Nat.digitChar n).toUpper

/-- A byte as a percent sign and two digits. -/
def encodeByte (b : UInt8) : List Char := ['%', hexDigit (b.toNat / 16), hexDigit (b.toNat % 16)]

/-- A character as the bytes of its UTF-8 form. -/
def encodeChar (c : Char) : List Char := (String.singleton c).toUTF8.toList.flatMap encodeByte

def encode (mayStand : Char → Bool) (s : List Char) : List Char :=
  s.flatMap fun c => if mayStand c then [c] else encodeChar c

def hexValue? (b : UInt8) : Option UInt8 :=
  if 48 ≤ b ∧ b ≤ 57 then some (b - 48)
  else if 97 ≤ b ∧ b ≤ 102 then some (b - 87)
  else if 65 ≤ b ∧ b ≤ 70 then some (b - 55)
  else none

/-- The bytes of a text in which percent signs are read. -/
def decodeBytes : List UInt8 → List UInt8
  | 37 :: x :: y :: rest =>
    match hexValue? x, hexValue? y with
    | some u, some v => (u * 16 + v) :: decodeBytes rest
    | _, _ => 37 :: decodeBytes (x :: y :: rest)
  | b :: rest => b :: decodeBytes rest
  | [] => []

/-- The text whose encoded form is given. -/
def decode? (text : String) : Option String :=
  String.fromUTF8? ⟨(decodeBytes text.toUTF8.toList).toArray⟩

end Docket.Percent
