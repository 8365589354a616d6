import Docket.Text.Blank
import Docket.Text.Digits

/-!
# Instants

An instant is a day of the Gregorian calendar, a second of that day in universal time and a fraction
in nanoseconds.  A fraction of a second or more stands for a leap second, which is counted with the
second before it.

`Instant.read?` accepts a date, a time and an offset in the usual order.  It is generous in the
details: the separator may be a blank, blanks may stand before each number and mark, leading zeros
may be missing, and a year beyond four digits has a sign.  `Instant.write` writes one form only,
in universal time, with as many of 0, 3, 6 or 9 digits of the fraction as are needed.
-/

namespace Docket

/-! ## The calendar -/

namespace Calendar

/-- Whether a year has 366 days. -/
def isLeap (year : Int) : Bool := year % 4 = 0 && (year % 100 ≠ 0 || year % 400 = 0)

/-- The number of days of a month. -/
def daysOfMonth (year : Int) (month : Nat) : Nat :=
  if month = 2 then (if isLeap year then 29 else 28)
  else if month = 4 ∨ month = 6 ∨ month = 9 ∨ month = 11 then 30
  else 31

/-- The days from the first of January 1970 to a date.  Years are counted from March here, so that
the day that may be missing is the last. -/
def dayOf (year : Int) (month day : Nat) : Int :=
  let y := if month ≤ 2 then year - 1 else year
  let m := (month + 9) % 12
  365 * y + y / 4 - y / 100 + y / 400 + ((153 * m + 2) / 5 : Nat) + day - 719469

/-- The date of a day that is counted from the first of January 1970. -/
def dateOf (count : Int) : Int × Nat × Nat :=
  let days := count + 719468
  let era := days / 146097
  let dayOfEra := (days % 146097).toNat
  let yearOfEra := (dayOfEra - dayOfEra / 1460 + dayOfEra / 36524 - dayOfEra / 146096) / 365
  let dayOfYear := dayOfEra - (365 * yearOfEra + yearOfEra / 4 - yearOfEra / 100)
  let m := (5 * dayOfYear + 2) / 153
  let month := if m < 10 then m + 3 else m - 9
  (era * 400 + yearOfEra + (if month ≤ 2 then 1 else 0), month, dayOfYear - (153 * m + 2) / 5 + 1)

/-- The first year that is kept. -/
def firstYear : Int := -262143

/-- The last year that is kept. -/
def lastYear : Int := 262142

end Calendar

/-- A point in time. -/
structure Instant where
  /-- The days since the first of January 1970. -/
  day : Int
  /-- The seconds since midnight. -/
  second : Nat
  /-- The nanoseconds since the second began, up to the end of a leap second after it. -/
  nano : Nat
  deriving DecidableEq, Repr, Inhabited

namespace Instant

/-- The nanoseconds of a second. -/
def nanosPerSecond : Int := 1000000000

/-- The nanoseconds from one instant to another.  A leap second between two seconds of a day is
counted. -/
def nanosSince (now past : Instant) : Int :=
  let leap : Int :=
    if past.second < now.second then (if nanosPerSecond ≤ past.nano then 1 else 0)
    else if now.second < past.second then (if nanosPerSecond ≤ now.nano then -1 else 0)
    else 0
  ((now.day - past.day) * 86400 + now.second - past.second + leap) * nanosPerSecond + now.nano - past.nano

/-- The whole seconds from one instant to another, cut off towards zero. -/
def secondsSince (now past : Instant) : Int := (now.nanosSince past).tdiv nanosPerSecond

/-! ## Writing -/

/-- The digits of a number, with zeros before them up to a width. -/
def padded (width n : Nat) : String :=
  let digits := Nat.toDigits 10 n
  String.ofList (List.replicate (width - digits.length) '0' ++ digits)

/-- A year: four digits, or a sign and at least four digits. -/
def writeYear (year : Int) : String :=
  if 0 ≤ year ∧ year ≤ 9999 then padded 4 year.toNat
  else (if year < 0 then "-" else "+") ++ padded 4 year.natAbs

/-- A fraction of a second: none, or three, six or nine digits. -/
def writeFraction (nano : Nat) : String :=
  if nano = 0 then ""
  else if nano % 1000000 = 0 then "." ++ padded 3 (nano / 1000000)
  else if nano % 1000 = 0 then "." ++ padded 6 (nano / 1000)
  else "." ++ padded 9 nano

def write (t : Instant) : String :=
  let (year, month, day) := Calendar.dateOf t.day
  let leap := if nanosPerSecond ≤ t.nano then 1 else 0
  writeYear year ++ "-" ++ padded 2 month ++ "-" ++ padded 2 day ++ "T"
    ++ padded 2 (t.second / 3600) ++ ":" ++ padded 2 (t.second / 60 % 60) ++ ":"
    ++ padded 2 (t.second % 60 + leap) ++ writeFraction (t.nano - leap * nanosPerSecond.toNat) ++ "Z"

/-! ## Reading -/

def skipBlanks (s : List Char) : List Char := s.dropWhile Text.isBlank

/-- Reads a number of at least one and at most `width` digits. -/
def readDigits (width : Nat) (s : List Char) : Option (Nat × List Char) :=
  match (s.take width).takeWhile Text.isDigit with
  | [] => none
  | digits => some (Text.natOf digits, s.drop digits.length)

/-- Reads a number of one or two digits after blanks, within bounds. -/
def readPart (low high : Nat) (s : List Char) : Option (Nat × List Char) := do
  let (n, rest) ← readDigits 2 (skipBlanks s)
  if low ≤ n ∧ n ≤ high then some (n, rest) else none

/-- Reads a mark after blanks. -/
def readMark (mark : Char) (s : List Char) : Option (List Char) :=
  match skipBlanks s with
  | c :: rest => if c = mark then some rest else none
  | [] => none

/-- Reads a year of up to four digits, or of any number of them after a sign. -/
def readYear (s : List Char) : Option (Int × List Char) :=
  match skipBlanks s with
  | '-' :: rest => (readDigits rest.length rest).map fun (n, r) => (-(n : Int), r)
  | '+' :: rest => (readDigits rest.length rest).map fun (n, r) => ((n : Int), r)
  | rest => (readDigits 4 rest).map fun (n, r) => ((n : Int), r)

/-- Reads the nanoseconds of a fraction, of which digits beyond the ninth are dropped. -/
def readFraction : List Char → Option (Nat × List Char)
  | '.' :: s =>
    match (s.take 9).takeWhile Text.isDigit with
    | [] => none
    | digits =>
      some (Text.natOf digits * Nat.pow 10 (9 - digits.length),
        (s.drop digits.length).dropWhile Text.isDigit)
  | s => some (0, s)

/-- The two digits at the start of a text. -/
def twoDigits : List Char → Option (Nat × List Char)
  | a :: b :: rest => if a.isDigit && b.isDigit then some (Text.natOf [a, b], rest) else none
  | _ => none

/-- Reads an offset from universal time in seconds. -/
def readOffset (s : List Char) : Option (Int × List Char) :=
  match s with
  | 'Z' :: rest | 'z' :: rest => some (0, rest)
  | '+' :: rest => signed 1 rest
  | '-' :: rest | '−' :: rest => signed (-1) rest
  | a :: b :: c :: rest =>
    if [a, b, c].map Char.toUpper = ['U', 'T', 'C'] then some (0, rest) else none
  | _ => none
where
  /-- Reads the hours and minutes after the sign. -/
  signed (sign : Int) (s : List Char) : Option (Int × List Char) := do
    let (hours, s) ← twoDigits s
    let (minutes, s) ← twoDigits (s.dropWhile fun c => c = ':' || Text.isBlank c)
    if minutes < 60 ∧ hours < 24 then some (sign * (hours * 3600 + minutes * 60 : Nat), s) else none

/-- The instant of a date and a second of its day at an offset from universal time. -/
def ofLocal (day : Int) (second : Nat) (nano : Nat) (offset : Int) : Option Instant :=
  let total := day * 86400 + second - offset
  let year := (Calendar.dateOf (total / 86400)).1
  if Calendar.firstYear ≤ year ∧ year ≤ Calendar.lastYear then
    some ⟨total / 86400, (total % 86400).toNat, nano⟩
  else none

/-- The instant that a text names. -/
def read? (text : String) : Option Instant := do
  let (year, s) ← readYear text.toList
  let (month, s) ← readPart 1 12 (← readMark '-' s)
  let (day, s) ← readPart 1 31 (← readMark '-' s)
  let s ← match s with
    | 'T' :: rest | 't' :: rest | ' ' :: rest => some rest
    | _ => none
  let (hour, s) ← readPart 0 23 s
  let (minute, s) ← readPart 0 59 (← readMark ':' s)
  let (second, s) ← readPart 0 60 (← readMark ':' s)
  let (nano, s) ← readFraction s
  let (offset, s) ← readOffset (skipBlanks s)
  if !(skipBlanks s).isEmpty then none
  else if year < Calendar.firstYear ∨ Calendar.lastYear < year then none
  else if Calendar.daysOfMonth year month < day then none
  else
    let leap := if second = 60 then 1 else 0
    ofLocal (Calendar.dayOf year month day) (hour * 3600 + minute * 60 + second - leap)
      (nano + leap * nanosPerSecond.toNat) offset

end Instant
end Docket
