import Docket.Json
import Docket.Text.Digits

/-!
# Reading JSON

`Json.read?` reads a whole text as one value.  Every failure is the same: the text is not a value.
Texts nested deeper than `maxDepth` lists and objects are refused, so are numerals beyond the
floating-point numbers and escapes that are no character.

A numeral without fraction and exponent is an integer where the integers reach.  Any other numeral
is a floating-point number: its longest run of leading digits that fits in 64 bits, scaled by the
power of ten that remains (`Double.scale10`).
-/

namespace Docket.Json

open Text (digitValue hexValue? natOf)

/-- The deepest nesting of lists and objects that is read. -/
def maxDepth : Nat := 127

/-- Whether a character separates the parts of a JSON text. -/
def isSpace (c : Char) : Bool := c == ' ' || c == '\n' || c == '\t' || c == '\r'

/-- The rest of a text after its leading spaces. -/
def skip (s : List Char) : List Char := s.dropWhile isSpace

/-- Four hexadecimal digits and the rest. -/
def hex4? : List Char → Option (Nat × List Char)
  | a :: b :: c :: d :: rest => do
    let a ← hexValue? a
    let b ← hexValue? b
    let c ← hexValue? c
    let d ← hexValue? d
    return (((a * 16 + b) * 16 + c) * 16 + d, rest)
  | _ => none

/-- The character that an escape after `\u` stands for, two escapes making one character where the
first is a leading surrogate. -/
def unicodeEscape? (s : List Char) : Option (Char × List Char) := do
  let (n, rest) ← hex4? s
  if 0xdc00 ≤ n ∧ n ≤ 0xdfff then none
  else if 0xd800 ≤ n ∧ n ≤ 0xdbff then
    match rest with
    | '\\' :: 'u' :: rest => do
      let (m, rest) ← hex4? rest
      if 0xdc00 ≤ m ∧ m ≤ 0xdfff then
        some (Char.ofNat (0x10000 + (n - 0xd800) * 0x400 + (m - 0xdc00)), rest)
      else none
    | _ => none
  else some (Char.ofNat n, rest)

/-- The character of an escape of one letter. -/
def escape? : Char → Option Char
  | '"' => some '"'
  | '\\' => some '\\'
  | '/' => some '/'
  | 'b' => some '\x08'
  | 'f' => some '\x0c'
  | 'n' => some '\n'
  | 'r' => some '\r'
  | 't' => some '\t'
  | _ => none

/-- The characters of a text up to its closing quote, and the rest after it. -/
def readText : (fuel : Nat) → List Char → Option (List Char × List Char)
  | 0, _ => none
  | fuel + 1, s =>
    match s with
    | [] => none
    | '"' :: rest => some ([], rest)
    | '\\' :: 'u' :: rest => do
      let (c, rest) ← unicodeEscape? rest
      let (cs, rest) ← readText fuel rest
      return (c :: cs, rest)
    | '\\' :: e :: rest => do
      let c ← escape? e
      let (cs, rest) ← readText fuel rest
      return (c :: cs, rest)
    | '\\' :: [] => none
    | c :: rest =>
      if c.toNat < 0x20 then none
      else do
        let (cs, rest) ← readText fuel rest
        return (c :: cs, rest)

/-- Appends digits to a number while the result has 64 bits; gives the number and the digits that
did not fit. -/
def absorb (n : Nat) : List Char → Nat × List Char
  | [] => (n, [])
  | d :: ds =>
    if n * 10 + digitValue d < Nat.pow 2 64 then absorb (n * 10 + digitValue d) ds else (n, d :: ds)

/-- The parts of a numeral. -/
structure Parts where
  negative : Bool
  whole : List Char
  fraction : Option (List Char)
  exponent : Option (Bool × List Char)

/-- The number that a numeral stands for, if the floating-point numbers reach it. -/
def Parts.number? (p : Parts) : Option Number :=
  let (n, left) := absorb 0 p.whole
  match p.fraction, p.exponent, left with
  | none, none, [] =>
    if !p.negative then some (.int n)
    else if n = 0 ∨ Nat.pow 2 63 < n then some (.float ((Double.ofInt n).withSign true))
    else some (.int (-n))
  | _, _, _ =>
    let fraction := p.fraction.getD []
    let (m, unused) := absorb n fraction
    let base : Int := left.length - (fraction.length - unused.length : Nat)
    let exponent : Int := match p.exponent with
      | none => 0
      | some (true, ds) => -(natOf ds : Int)
      | some (false, ds) => natOf ds
    ((Double.ofInt m).scale10 (base + exponent)).map fun x => .float (x.withSign p.negative)

/-- The digits at the start of a text, of which there must be one, and the rest. -/
def digits? (s : List Char) : Option (List Char × List Char) :=
  match s.span Text.isDigit with
  | ([], _) => none
  | (ds, rest) => some (ds, rest)

/-- The parts of a numeral and the rest. -/
def numeral? (s : List Char) : Option (Parts × List Char) := do
  let (negative, s) := match s with
    | '-' :: rest => (true, rest)
    | _ => (false, s)
  let (whole, s) ← digits? s
  if whole.length > 1 ∧ whole.head? = some '0' then none
  else
    let (fraction, s) ← match s with
      | '.' :: rest => (digits? rest).map fun (ds, rest) => (some ds, rest)
      | _ => some (none, s)
    let (exponent, s) ← match s with
      | e :: rest =>
        if e = 'e' ∨ e = 'E' then
          match rest with
          | '-' :: rest => (digits? rest).map fun (ds, rest) => (some (true, ds), rest)
          | '+' :: rest => (digits? rest).map fun (ds, rest) => (some (false, ds), rest)
          | _ => (digits? rest).map fun (ds, rest) => (some (false, ds), rest)
        else some (none, s)
      | [] => some (none, s)
    return (⟨negative, whole, fraction, exponent⟩, s)

/-- A number and the rest. -/
def readNumber (s : List Char) : Option (Number × List Char) := do
  let (parts, rest) ← numeral? s
  let n ← parts.number?
  return (n, rest)

/-- The rest of a text after a word that it must start with. -/
def word? : (word : List Char) → List Char → Option (List Char)
  | [], s => some s
  | c :: cs, d :: ds => if c = d then word? cs ds else none
  | _ :: _, [] => none

mutual

/-- A value and the rest of the text.  `depth` counts the nesting that is still allowed, and the
fuel is used up by one for every value, item and field. -/
def readValue : (fuel depth : Nat) → List Char → Option (Json × List Char)
  | 0, _, _ => none
  | fuel + 1, depth, s =>
    match skip s with
    | 'n' :: rest => (word? ['u', 'l', 'l'] rest).map fun r => (.null, r)
    | 't' :: rest => (word? ['r', 'u', 'e'] rest).map fun r => (.bool true, r)
    | 'f' :: rest => (word? ['a', 'l', 's', 'e'] rest).map fun r => (.bool false, r)
    | '"' :: rest => (readText (rest.length + 1) rest).map fun (cs, r) =>
      (.str (String.ofList cs), r)
    | '[' :: rest =>
      match depth with
      | 0 => none
      | depth + 1 =>
        match skip rest with
        | ']' :: rest => some (.arr [], rest)
        | rest => (readItems fuel depth rest).map fun (items, r) => (.arr items, r)
    | '\x7b' :: rest =>
      match depth with
      | 0 => none
      | depth + 1 =>
        match skip rest with
        | '\x7d' :: rest => some (.obj [], rest)
        | rest => (readFields fuel depth [] rest).map fun (fields, r) => (.obj fields, r)
    | c :: rest =>
      if c = '-' || Text.isDigit c then
        (readNumber (c :: rest)).map fun (n, r) => (.num n, r)
      else none
    | [] => none

/-- The items of a list up to its closing bracket. -/
def readItems : (fuel depth : Nat) → List Char → Option (List Json × List Char)
  | 0, _, _ => none
  | fuel + 1, depth, s => do
    let (x, rest) ← readValue fuel depth s
    match skip rest with
    | ',' :: rest =>
      let (xs, rest) ← readItems fuel depth rest
      return (x :: xs, rest)
    | ']' :: rest => return ([x], rest)
    | _ => none

/-- The fields of an object up to its closing brace, set one by one. -/
def readFields : (fuel depth : Nat) → Fields → List Char → Option (Fields × List Char)
  | 0, _, _, _ => none
  | fuel + 1, depth, fields, s => do
    match skip s with
    | '"' :: rest =>
      let (name, rest) ← readText (rest.length + 1) rest
      match skip rest with
      | ':' :: rest =>
        let (x, rest) ← readValue fuel depth rest
        let fields := insertField (String.ofList name) x fields
        match skip rest with
        | ',' :: rest => readFields fuel depth fields rest
        | '\x7d' :: rest => return (fields, rest)
        | _ => none
      | _ => none
    | _ => none

end

/-- The value that a whole text stands for. -/
def read? (text : String) : Option Json := do
  let s := text.toList
  let (x, rest) ← readValue (2 * s.length + 2) maxDepth s
  if (skip rest).isEmpty then some x else none

end Docket.Json
