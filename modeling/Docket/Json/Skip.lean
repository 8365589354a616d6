import Docket.Json.Reader

/-!
# Passing over JSON

`Json.passOver` finds the end of a value of which nothing but the end is wanted.  It asks for the
grammar alone: numerals may be of any size, the four digits of an escape may be no character, and
lists and objects may be nested to any depth.
-/

namespace Docket.Json

/-- The rest after a text's closing quote. -/
def passText : List Char → Option (List Char)
  | [] => none
  | '"' :: rest => some rest
  | '\\' :: 'u' :: a :: b :: c :: d :: rest =>
    if [a, b, c, d].all fun x => (Text.hexValue? x).isSome then passText rest else none
  | '\\' :: e :: rest => if (escape? e).isSome then passText rest else none
  | c :: rest => if c.toNat < 0x20 then none else passText rest

/-- The rest after a field's name and its colon. -/
def passName (s : List Char) : Option (List Char) :=
  match skip s with
  | '"' :: rest =>
    match (passText rest).map skip with
    | some (':' :: rest) => some rest
    | _ => none
  | _ => none

/-- What encloses a value. -/
inductive Bracket where
  | list
  | object
  deriving DecidableEq, Repr

mutual

/-- The rest after a value, and after the end of all that encloses it, the innermost first. -/
def passValue : (fuel : Nat) → (around : List Bracket) → List Char → Option (List Char)
  | 0, _, _ => none
  | fuel + 1, around, s =>
    match skip s with
    | 'n' :: rest => (word? ['u', 'l', 'l'] rest).bind (passEnd fuel around)
    | 't' :: rest => (word? ['r', 'u', 'e'] rest).bind (passEnd fuel around)
    | 'f' :: rest => (word? ['a', 'l', 's', 'e'] rest).bind (passEnd fuel around)
    | '"' :: rest => (passText rest).bind (passEnd fuel around)
    | '[' :: rest =>
      match skip rest with
      | ']' :: rest => passEnd fuel around rest
      | rest => passValue fuel (.list :: around) rest
    | '\x7b' :: rest =>
      match skip rest with
      | '\x7d' :: rest => passEnd fuel around rest
      | rest => (passName rest).bind (passValue fuel (.object :: around))
    | rest => (numeral? rest).bind fun (_, rest) => passEnd fuel around rest

/-- The rest after the end of all that encloses a value which has just been passed. -/
def passEnd : (fuel : Nat) → (around : List Bracket) → List Char → Option (List Char)
  | 0, _, _ => none
  | fuel + 1, around, s =>
    match around, skip s with
    | [], _ => some s
    | .list :: outer, ']' :: rest => passEnd fuel outer rest
    | .list :: _, ',' :: rest => passValue fuel around rest
    | .object :: outer, '\x7d' :: rest => passEnd fuel outer rest
    | .object :: _, ',' :: rest => (passName rest).bind (passValue fuel around)
    | _, _ => none

end

/-- The rest of a text after the value at its front. -/
def passOver (s : List Char) : Option (List Char) := passValue (2 * s.length + 2) [] s

end Docket.Json
