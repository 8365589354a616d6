import Docket.Toml.Scalar
import Docket.Toml.Tree

/-!
# Reading TOML

`Toml.read?` reads a whole document as an object.  Every failure is the same: the text is no
document.  The readers take the text that is left and give what remains of it.  Values and names
that go deeper than `maxDepth` are refused.
-/

namespace Docket.Toml

/-- Whether a character separates the parts of a line. -/
def isBlank (c : Char) : Bool := c == ' ' || c == '\t'

def skipBlanks (s : List Char) : List Char := s.dropWhile isBlank

/-- The rest of a text after its leading blanks and ends of lines. -/
def skipBreaks : List Char → List Char
  | '\r' :: '\n' :: rest => skipBreaks rest
  | c :: rest => if isBlank c || c == '\n' then skipBreaks rest else c :: rest
  | [] => []

/-- Whether a character may not stand in a text or a comment. -/
def isControl (c : Char) : Bool := (c.toNat < 0x20 && c != '\t') || c.toNat == 0x7f

/-- The deepest nesting of lists and tables within a value, and the most parts of a name. -/
def maxDepth : Nat := 79

/-- The rest of a text after the end of a line that it must start with. -/
def newline? : List Char → Option (List Char)
  | '\n' :: rest | '\r' :: '\n' :: rest => some rest
  | _ => none

/-- The rest after a comment, if there is one. -/
def skipComment : List Char → List Char
  | '#' :: rest => rest.dropWhile fun c => !isControl c
  | s => s

/-- The rest after blanks, comments and ends of lines. -/
def skipLines : (fuel : Nat) → List Char → List Char
  | 0, s => s
  | fuel + 1, s =>
    let s := skipComment (skipBlanks s)
    match newline? s with
    | some rest => skipLines fuel rest
    | none => s

/-- The rest after the end of a line, at which the text may end too. -/
def endLine? (s : List Char) : Option (List Char) :=
  match skipComment (skipBlanks s) with
  | [] => some []
  | s => newline? s

/-! ## Texts -/

/-- The character of hexadecimal digits. -/
def hexChar? (digits : List Char) : Option Char :=
  let n := valueOf 16 digits
  if digits.all (isDigitOf 16) ∧ n.isValidChar then some (Char.ofNat n) else none

/-- The character of an escape after its backslash. -/
def readEscape : List Char → Option (Char × List Char)
  | 'u' :: a :: b :: c :: d :: rest => (hexChar? [a, b, c, d]).map fun x => (x, rest)
  | 'U' :: a :: b :: c :: d :: e :: f :: g :: h :: rest =>
    (hexChar? [a, b, c, d, e, f, g, h]).map fun x => (x, rest)
  | 'b' :: rest => some ('\x08', rest)
  | 't' :: rest => some ('\t', rest)
  | 'n' :: rest => some ('\n', rest)
  | 'f' :: rest => some ('\x0c', rest)
  | 'r' :: rest => some ('\r', rest)
  | '"' :: rest => some ('"', rest)
  | '\\' :: rest => some ('\\', rest)
  | _ => none

/-- The characters of a line up to a closing quote. -/
def readLine (quote : Char) (escapes : Bool) :
    (fuel : Nat) → List Char → Option (List Char × List Char)
  | 0, _ => none
  | fuel + 1, s =>
    match s with
    | [] => none
    | c :: rest =>
      if c = quote then some ([], rest)
      else if escapes ∧ c = '\\' then do
        let (c, rest) ← readEscape rest
        let (cs, rest) ← readLine quote escapes fuel rest
        return (c :: cs, rest)
      else if isControl c then none
      else do
        let (cs, rest) ← readLine quote escapes fuel rest
        return (c :: cs, rest)

/-- The characters of several lines up to three closing quotes, before which two more may stand. -/
def readBlock (quote : Char) (escapes : Bool) :
    (fuel : Nat) → List Char → Option (List Char × List Char)
  | 0, _ => none
  | fuel + 1, s =>
    match s with
    | [] => none
    | c :: rest =>
      if c = quote then
        let quotes := s.takeWhile (· == quote)
        let rest := s.dropWhile (· == quote)
        if quotes.length < 3 then do
          let (cs, rest) ← readBlock quote escapes fuel rest
          return (quotes ++ cs, rest)
        else if quotes.length ≤ 5 then some (quotes.drop 3, rest)
        else none
      else if escapes ∧ c = '\\' then
        match newline? (skipBlanks rest) with
        | some rest => readBlock quote escapes fuel (skipBreaks rest)
        | none => do
          let (c, rest) ← readEscape rest
          let (cs, rest) ← readBlock quote escapes fuel rest
          return (c :: cs, rest)
      else
        match newline? s with
        | some rest => do
          let (cs, rest) ← readBlock quote escapes fuel rest
          return ('\n' :: cs, rest)
        | none =>
          if isControl c then none
          else do
            let (cs, rest) ← readBlock quote escapes fuel rest
            return (c :: cs, rest)

/-- Reads a text between quotes of some kind, of which the first is read. -/
def readQuoted (quote : Char) (s : List Char) : Option (List Char × List Char) :=
  let escapes := quote = '"'
  match s with
  | a :: b :: rest =>
    if a = quote ∧ b = quote then
      readBlock quote escapes (rest.length + 1) ((newline? rest).getD rest)
    else readLine quote escapes (s.length + 1) s
  | _ => readLine quote escapes (s.length + 1) s

/-! ## Names -/

/-- Whether a character may stand in a name without quotes. -/
def inName (c : Char) : Bool := c.isAlphanum || c == '_' || c == '-'

/-- Reads one part of a name. -/
def readPart (s : List Char) : Option (String × List Char) :=
  match s with
  | '"' :: rest =>
    (readLine '"' true (rest.length + 1) rest).map fun (cs, rest) => (String.ofList cs, rest)
  | '\'' :: rest =>
    (readLine '\'' false (rest.length + 1) rest).map fun (cs, rest) => (String.ofList cs, rest)
  | _ =>
    match s.span inName with
    | ([], _) => none
    | (cs, rest) => some (String.ofList cs, rest)

/-- Reads a dotted name of at most so many parts and the blanks after it. -/
def readParts : (most : Nat) → List Char → Option (List String × List Char)
  | 0, _ => none
  | most + 1, s => do
    let (part, rest) ← readPart (skipBlanks s)
    match skipBlanks rest with
    | '.' :: rest =>
      let (parts, rest) ← readParts most rest
      return (part :: parts, rest)
    | rest => return ([part], rest)

/-- Reads a dotted name and the blanks after it. -/
def readName (s : List Char) : Option (List String × List Char) := readParts maxDepth s

/-! ## Values -/

mutual

/-- Reads a value with lists and tables down to a depth. -/
def readValue : (fuel depth : Nat) → List Char → Option (Json × List Char)
  | 0, _, _ => none
  | fuel + 1, depth, s =>
    match s, depth with
    | '"' :: rest, _ => (readQuoted '"' rest).map fun (cs, rest) => (.str (String.ofList cs), rest)
    | '\'' :: rest, _ =>
      (readQuoted '\'' rest).map fun (cs, rest) => (.str (String.ofList cs), rest)
    | '[' :: _, 0 | '\x7b' :: _, 0 => none
    | '[' :: rest, depth + 1 =>
      (readItems fuel depth rest).map fun (items, rest) => (.arr items, rest)
    | '\x7b' :: rest, depth + 1 =>
      match skipBlanks rest with
      | '\x7d' :: rest => some (.obj [], rest)
      | rest =>
        (readInline fuel depth [] rest).map fun (fields, rest) => (Json.object fields.toList, rest)
    | s, _ => readScalar s

def readItems : (fuel depth : Nat) → List Char → Option (List Json × List Char)
  | 0, _, _ => none
  | fuel + 1, depth, s =>
    match skipLines s.length s with
    | ']' :: rest => some ([], rest)
    | s => do
      let (v, rest) ← readValue fuel depth s
      match skipLines rest.length rest with
      | ',' :: rest =>
        let (vs, rest) ← readItems fuel depth rest
        return (v :: vs, rest)
      | ']' :: rest => return ([v], rest)
      | _ => none

/-- Reads the fields of a table on one line up to its closing brace. -/
def readInline : (fuel depth : Nat) → Fields → List Char → Option (Fields × List Char)
  | 0, _, _, _ => none
  | fuel + 1, depth, fields, s => do
    match ← readName s with
    | (name, '=' :: rest) =>
      let (v, rest) ← readValue fuel depth (skipBlanks rest)
      let fields ← fields.setValue name v
      match skipBlanks rest with
      | ',' :: rest => readInline fuel depth fields rest
      | '\x7d' :: rest => return (fields, rest)
      | _ => none
    | _ => none

end

/-! ## Documents -/

/-- A document as far as it is read: its tables, and the heading that values go under. -/
structure Document where
  fields : Fields
  heading : List String

/-- Reads the next thing of a document, which ends its line. -/
def readStatement (d : Document) (s : List Char) : Option (Document × List Char) :=
  match s with
  | '[' :: '[' :: rest => do
    match ← readName rest with
    | (heading, ']' :: ']' :: rest) =>
      let fields ← d.fields.addToTables heading
      return (⟨fields, heading⟩, ← endLine? rest)
    | _ => none
  | '[' :: rest => do
    match ← readName rest with
    | (heading, ']' :: rest) =>
      let fields ← d.fields.addTable heading
      return (⟨fields, heading⟩, ← endLine? rest)
    | _ => none
  | _ => do
    match ← readName s with
    | (name, '=' :: rest) =>
      let (v, rest) ← readValue (2 * s.length + 2) maxDepth (skipBlanks rest)
      let fields ← d.fields.under d.heading (Fields.setValue name v)
      return ({ d with fields }, ← endLine? rest)
    | _ => none

/-- Reads the rest of a document. -/
def readStatements : (fuel : Nat) → Document → List Char → Option Document
  | 0, _, _ => none
  | fuel + 1, d, s =>
    match skipLines s.length s with
    | [] => some d
    | s => do
      let (d, rest) ← readStatement d s
      readStatements fuel d rest

/-- The object that a whole document stands for. -/
def read? (text : String) : Option Json := do
  let s := match text.toList with
    | '\ufeff' :: rest => rest
    | s => s
  let d ← readStatements (s.length + 1) ⟨[], []⟩ s
  return Json.object d.fields.toList

end Docket.Toml
