/-!
# Blanks

The blanks are the characters with the property `White_Space`.  They separate the tokens of an
expression, and they are cut off wherever the ends of a text do not count.
-/

namespace Docket.Text

/-- The ranges of the property `White_Space`. -/
def blankRanges : List (Nat × Nat) :=
  [
    (0x9, 0xd), (0x20, 0x20), (0x85, 0x85), (0xa0, 0xa0), (0x1680, 0x1680), (0x2000, 0x200a),
    (0x2028, 0x2029), (0x202f, 0x202f), (0x205f, 0x205f), (0x3000, 0x3000)
  ]

def isBlank (c : Char) : Bool := blankRanges.any fun r => r.1 ≤ c.toNat && c.toNat ≤ r.2

/-- A text without the characters of some kind at its two ends. -/
def trimOf (p : Char → Bool) (s : List Char) : List Char :=
  ((s.dropWhile p).reverse.dropWhile p).reverse

/-- A text without the blanks at its two ends. -/
def trim (s : List Char) : List Char := trimOf isBlank s

def trimText (s : String) : String := String.ofList (trim s.toList)

def isBlankText (s : String) : Bool := s.toList.all isBlank

example : [' ', '\t', '\n', '\r', '\x0b', '\x0c', '\u0085', '\u00a0', '\u3000'].all isBlank = true := by
  decide

example : isBlank '\u200b' = false ∧ isBlank '\ufeff' = false ∧ isBlank '_' = false := by decide

end Docket.Text
