import Docket.Json.Skip

/-!
# Values of a given shape

Where it is known what a text has to say, it is read as a value of a `Shape`, and the first fault
from its front decides what is said about it: the text is no JSON, or a value has not the shape that
is wanted.  A list or an object in the wrong place is a fault where it begins, whatever follows.

A record is an object with fields of known names.  None of them may come twice, and of the values of
other fields nothing is asked but that they end (`Json.passOver`).  It may also be the list of the
values of its fields in order; what is read is an object either way.
-/

namespace Docket.Json

/-- What is wrong with a text that is to have a shape. -/
inductive Fault where
  | unreadable
  | misshapen
  deriving DecidableEq, Repr

/-- The shape of a value. -/
inductive Shape where
  | text
  | flag
  | table
  | optional (shape : Shape)
  | list (items : Shape)
  /-- Fields by name, of which some must be there. -/
  | record (fields : List (String × Shape)) (required : List String)

namespace Shape

/-- A text that cannot be read is no JSON. -/
def readable {α : Type} : Option α → Except Fault α
  | some a => .ok a
  | none => .error .unreadable

/-- Reads any value with lists and objects down to a depth. -/
def readAny (depth : Nat) (s : List Char) : Except Fault (Json × List Char) :=
  readable (readValue (2 * s.length + 2) depth s)

/-- What is wrong with a value that begins as no value of the shape does. -/
def misfit (s : List Char) : Fault :=
  match skip s with
  | '[' :: _ | '\x7b' :: _ => .misshapen
  | s =>
    match readAny 0 s with
    | .ok _ => .misshapen
    | .error fault => fault

/-- The rest of a text after a mark that it must start with. -/
def readMark (mark : Char) (s : List Char) : Except Fault (List Char) :=
  match skip s with
  | c :: rest => if c = mark then .ok rest else .error .unreadable
  | [] => .error .unreadable

/-- The object of the fields that were read, if all are there that must be. -/
def build (required : List String) (fields : Fields) : Except Fault Json :=
  if required.all fun name => (Fields.get? fields name).isSome then .ok (Json.object fields)
  else .error .misshapen

mutual

/-- Reads a value of a shape from the front of a text.  `depth` counts the nesting that is still
allowed, and the fuel is used up by one for every shape, item and field. -/
def read : (fuel depth : Nat) → Shape → List Char → Except Fault (Json × List Char)
  | 0, _, _, _ => .error .unreadable
  | fuel + 1, depth, shape, s =>
    match shape, skip s with
    | .text, '"' :: _ | .flag, 't' :: _ | .flag, 'f' :: _ | .table, '\x7b' :: _ => readAny depth s
    | .optional _, 'n' :: _ => readAny depth s
    | .optional shape, _ => shape.read fuel depth s
    | .list items, '[' :: rest =>
      match depth, skip rest with
      | 0, _ => .error .unreadable
      | _ + 1, ']' :: rest => .ok (.arr [], rest)
      | depth + 1, rest => do
        let (items, rest) ← readItems fuel depth items rest
        return (.arr items, rest)
    | .record fields required, '\x7b' :: rest =>
      match depth, skip rest with
      | 0, _ => .error .unreadable
      | _ + 1, '\x7d' :: rest => do return (← build required [], rest)
      | depth + 1, rest => do
        let (got, rest) ← readFields fuel depth fields [] rest
        return (← build required got, rest)
    | .record fields required, '[' :: rest =>
      match depth with
      | 0 => .error .unreadable
      | depth + 1 => do
        let (got, rest) ← readRow fuel depth fields [] rest
        let value ← build required got
        return (value, ← readMark ']' rest)
    | _, _ => .error (misfit s)

/-- Reads the items of a list up to its closing bracket. -/
def readItems : (fuel depth : Nat) → Shape → List Char → Except Fault (List Json × List Char)
  | 0, _, _, _ => .error .unreadable
  | fuel + 1, depth, shape, s => do
    let (x, rest) ← shape.read fuel depth s
    match skip rest with
    | ',' :: rest =>
      let (xs, rest) ← readItems fuel depth shape rest
      return (x :: xs, rest)
    | ']' :: rest => return ([x], rest)
    | _ => .error .unreadable

/-- Reads the fields of a record up to its closing brace, and adds them to those that are there. -/
def readFields : (fuel depth : Nat) → List (String × Shape) → Fields → List Char →
    Except Fault (Fields × List Char)
  | 0, _, _, _, _ => .error .unreadable
  | fuel + 1, depth, fields, got, s => do
    let s ← readMark '"' s
    let (name, rest) ← readable (readText (s.length + 1) s)
    let name := String.ofList name
    let (got, rest) ←
      match fields.lookup name with
      | some shape =>
        if (Fields.get? got name).isSome then .error .misshapen
        else do
          let (x, rest) ← shape.read fuel depth (← readMark ':' rest)
          pure (got ++ [(name, x)], rest)
      | none => do pure (got, ← readable (passOver (← readMark ':' rest)))
    match skip rest with
    | ',' :: rest => readFields fuel depth fields got rest
    | '\x7d' :: rest => return (got, rest)
    | _ => .error .unreadable

/-- Reads the values of a record's fields in order up to the closing bracket, which may come early,
and adds them to those that are there. -/
def readRow : (fuel depth : Nat) → List (String × Shape) → Fields → List Char →
    Except Fault (Fields × List Char)
  | 0, _, _, _, _ => .error .unreadable
  | fuel + 1, depth, fields, got, s =>
    match fields, skip s with
    | [], _ | _, ']' :: _ => .ok (got, s)
    | (name, shape) :: fields, _ => do
      let s ← if got.isEmpty then pure s else readMark ',' s
      let (x, rest) ← shape.read fuel depth s
      readRow fuel depth fields (got ++ [(name, x)]) rest

end

/-- The value of a shape at the front of a text, and the rest. -/
def front (shape : Shape) (text : String) : Except Fault (Json × List Char) :=
  let s := text.toList
  shape.read (3 * s.length + 3) maxDepth s

/-- The value of a shape that a whole text stands for. -/
def whole? (shape : Shape) (text : String) : Option Json :=
  match shape.front text with
  | .ok (x, rest) => if (skip rest).isEmpty then some x else none
  | .error _ => none

end Shape
end Docket.Json
