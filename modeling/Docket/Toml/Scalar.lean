import Docket.Json
import Docket.Text.Digits
import Docket.Time

/-!
# Numbers, dates and truth values of TOML

A scalar is a word without blanks, but for the one blank that may part a date from a time.  Digits
may be grouped by single underscores.  An integer has 64 bits and a sign, and is written in decimal
or, after `0x`, `0o` or `0b`, without a sign.

Dates and times have no JSON value of their own; they are checked and kept as an object with their
text, so that nothing takes them for a text.
-/

namespace Docket.Toml

/-- Digits without the single underscores between them. -/
def ungroup (isDigit : Char → Bool) : List Char → Option (List Char)
  | [] => none
  | [c] => if isDigit c then some [c] else none
  | c :: '_' :: rest => if isDigit c then (ungroup isDigit rest).map (c :: ·) else none
  | c :: rest => if isDigit c then (ungroup isDigit rest).map (c :: ·) else none

/-- The digits of a decimal number, which starts with zero only if it is zero. -/
def decimal? (s : List Char) : Option (List Char) := do
  let digits ← ungroup Text.isDigit s
  if digits.length > 1 ∧ digits.head? = some '0' then none else some digits

/-- Whether a character is a digit to a base. -/
def isDigitOf (base : Nat) (c : Char) : Bool := (Text.hexValue? c).any (· < base)

/-- The number that digits to a base stand for. -/
def valueOf (base : Nat) (digits : List Char) : Nat :=
  digits.foldl (fun n c => n * base + (Text.hexValue? c).getD 0) 0

/-- An integer of 64 bits with a sign as a value. -/
def integer? (i : Int) : Option Json :=
  if Number.minInt ≤ i ∧ i ≤ Number.maxInt64 then some (.num (.int i)) else none

/-- Reads an integer. -/
def readInteger : List Char → Option Json
  | '0' :: 'x' :: s => (ungroup (isDigitOf 16) s).bind fun ds => integer? (valueOf 16 ds)
  | '0' :: 'o' :: s => (ungroup (isDigitOf 8) s).bind fun ds => integer? (valueOf 8 ds)
  | '0' :: 'b' :: s => (ungroup (isDigitOf 2) s).bind fun ds => integer? (valueOf 2 ds)
  | '-' :: s => (decimal? s).bind fun ds => integer? (-(valueOf 10 ds : Int))
  | '+' :: s => (decimal? s).bind fun ds => integer? (valueOf 10 ds)
  | s => (decimal? s).bind fun ds => integer? (valueOf 10 ds)

/-- The digits and the power of ten of a floating-point number without its sign. -/
def numeral? (s : List Char) : Option (Nat × Int) := do
  let (mantissa, exponent) := s.span fun c => c != 'e' && c != 'E'
  let (whole, fraction) := mantissa.span (· != '.')
  if exponent.isEmpty ∧ fraction.isEmpty then none
  else
    let whole ← decimal? whole
    let fraction ← match fraction with
      | [] => some []
      | _ :: ds => ungroup Text.isDigit ds
    let exponent ← match exponent with
      | [] => some 0
      | _ :: '-' :: ds => (ungroup Text.isDigit ds).map fun ds => -(Text.natOf ds : Int)
      | _ :: '+' :: ds | _ :: ds => (ungroup Text.isDigit ds).map fun ds => (Text.natOf ds : Int)
    return (Text.natOf (whole ++ fraction), exponent - fraction.length)

/-- Reads a floating-point number.  One that is infinite or undefined has no JSON value, and zero
stands for it.  A numeral may lie beyond the format only below zero. -/
def readFloat (s : List Char) : Option Json :=
  let (negative, magnitude) := match s with
    | '-' :: rest => (true, rest)
    | '+' :: rest => (false, rest)
    | _ => (false, s)
  let stand := Json.num (.float (Double.zero negative))
  if String.ofList magnitude = "inf" ∨ String.ofList magnitude = "nan" then some stand
  else do
    let (digits, e) ← numeral? magnitude
    match Double.ofDecimal digits e with
    | some x => return .num (.float (x.withSign negative))
    | none => if negative then return stand else none

/-! ## Dates -/

/-- The number that is written with a given count of digits. -/
def fixed? (count : Nat) (s : List Char) : Option Nat :=
  if s.length = count ∧ s.all Text.isDigit then some (valueOf 10 s) else none

/-- Whether a text is a date. -/
def isDate (s : List Char) : Bool :=
  match s.splitOn '-' with
  | [y, m, d] =>
    match fixed? 4 y, fixed? 2 m, fixed? 2 d with
    | some y, some m, some d => 1 ≤ m && m ≤ 12 && 1 ≤ d && d ≤ Calendar.daysOfMonth y m
    | _, _, _ => false
  | _ => false

/-- Whether a text is a number of two digits up to a limit. -/
def isUpTo (limit : Nat) (s : List Char) : Bool := (fixed? 2 s).any (· ≤ limit)

/-- Whether a text is a time of the day. -/
def isTime (s : List Char) : Bool :=
  let (clock, fraction) := s.span (· != '.')
  (match fraction with
    | [] => true
    | _ :: ds => !ds.isEmpty && ds.all Text.isDigit) &&
  match clock.splitOn ':' with
  | [h, m, sec] => isUpTo 23 h && isUpTo 59 m && isUpTo 60 sec
  | _ => false

/-- Whether a text is a time of the day with the offset from universal time. -/
def isZonedTime (s : List Char) : Bool :=
  let (time, zone) := s.span fun c => c.isDigit || c == ':' || c == '.'
  isTime time &&
    match zone with
    | ['Z'] | ['z'] => true
    | sign :: rest =>
      (sign == '+' || sign == '-') &&
        match rest.splitOn ':' with
        | [h, m] => isUpTo 23 h && isUpTo 59 m
        | _ => false
    | [] => false

/-- Whether a text is a date, a time, or both. -/
def isMoment (s : List Char) : Bool :=
  let (date, rest) := (s.take 10, s.drop 10)
  isTime s || isDate s ||
    (isDate date &&
      match rest with
      | sep :: time =>
        (sep == 'T' || sep == 't' || sep == ' ') && (isTime time || isZonedTime time)
      | [] => false)

/-! ## Words -/

/-- Whether a character ends a scalar. -/
def endsScalar (c : Char) : Bool := " \t\r\n,]\x7d#=".contains c

/-- The value of a word. -/
def ofWord? (s : List Char) : Option Json :=
  if String.ofList s = "true" then some (.bool true)
  else if String.ofList s = "false" then some (.bool false)
  else if isMoment s then some (.obj [("moment", .str (String.ofList s))])
  else readInteger s <|> readFloat s

/-- Reads a scalar and gives the rest. -/
def readScalar (s : List Char) : Option (Json × List Char) :=
  let (word, rest) := s.span fun c => !endsScalar c
  match isDate word, rest with
  | true, ' ' :: d :: more =>
    if d.isDigit then
      let (time, rest) := (d :: more).span fun c => !endsScalar c
      (ofWord? (word ++ ' ' :: time)).map fun v => (v, rest)
    else (ofWord? word).map fun v => (v, rest)
  | _, _ => (ofWord? word).map fun v => (v, rest)

end Docket.Toml
