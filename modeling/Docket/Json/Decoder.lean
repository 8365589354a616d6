import Docket.Json
import Docket.Time
import Docket.Uuid

/-!
# Reading values of the data model

A `Decoder` reads a JSON value as a value of the data model, or says that it has another form.  The
forms are strict: a number is no text, and null stands only for an optional value.

A record is written as an object with the fields by name, of which unknown ones are ignored, or as
the list of the values of its fields in order.  `Decoder.record` reads both: its steps take one
field each.

A value that is one of several cases is written as the name of the case, or as an object with this
name as its only field.  A record of several kinds has a tag, which is the name of its kind.  Inside
of an action item, where a value is read only after the kind of the item is known, the tag may also
be the position of the kind, and the value of the only field may also be an empty object.
-/

namespace Docket

/-- A way to read a value as one of the data model. -/
abbrev Decoder (α : Type) := Json → Option α

namespace Decoder

variable {α β : Type}

/-! ## Plain values -/

def text : Decoder String
  | .str s => some s
  | _ => none

def flag : Decoder Bool
  | .bool b => some b
  | _ => none

def any : Decoder Json := some

/-- Reads an integer of 64 bits with a sign. -/
def int64 : Decoder Int
  | .num n => n.int64?
  | _ => none

/-- Reads an integer of 64 bits without a sign. -/
def nat64 : Decoder Nat
  | .num (.int i) => if 0 ≤ i then some i.toNat else none
  | _ => none

def optional (d : Decoder α) : Decoder (Option α)
  | .null => some none
  | j => (d j).map some

def list (d : Decoder α) : Decoder (List α)
  | .arr items => items.mapM d
  | _ => none

/-- Reads an object whose values are of one form. -/
def table (d : Decoder α) : Decoder (Table α)
  | .obj fields => (fields.mapM fun f => (d f.2).map fun a => (f.1, a)).map Keyed.ofList
  | _ => none

/-- Reads a list of texts as a set. -/
def nameSet : Decoder NameSet := fun j => (list text j).map Keyed.ofList

def instant : Decoder Instant := fun j => (text j).bind Instant.read?

def uuid : Decoder Uuid := fun j => (text j).bind Uuid.read?

/-! ## Cases -/

/-- Where a value is read: as one of its own, or inside of an action item. -/
inductive Place where
  | own
  | item
  deriving DecidableEq, Repr

/-- Whether a value says nothing more about a case than its name. -/
def saysNothing (place : Place) : Json → Bool
  | .null => true
  | .obj [] => place = .item
  | _ => false

/-- Reads the name of one of several cases. -/
def case (place : Place) (name : α → String) (all : List α) : Decoder α
  | .str s => all.find? fun a => name a = s
  | .obj [(s, j)] => if saysNothing place j then all.find? fun a => name a = s else none
  | _ => none

/-- Reads the tag of a record. -/
def tag (place : Place) (name : α → String) (all : List α) : Decoder α
  | .str s => all.find? fun a => name a = s
  | .num (.int i) => if place = .item ∧ 0 ≤ i then all[i.toNat]? else none
  | _ => none

/-! ## Records -/

/-- What is left to read of a record: its fields by name, or the values of its next fields. -/
inductive Row where
  | named (fields : Json.Fields)
  | listed (items : List Json)
  deriving Repr

/-- Whether no value is left that no field has taken. -/
def Row.isDone : Row → Bool
  | .named _ => true
  | .listed items => items.isEmpty

/-- A step in reading a record. -/
abbrev Fields (α : Type) := StateT Row Option α

/-- Takes the value of the next field, if there is one. -/
def next? (name : String) : Fields (Option Json)
  | .named fields => some (Json.Fields.get? fields name, .named fields)
  | .listed (j :: rest) => some (some j, .listed rest)
  | .listed [] => some (none, .listed [])

/-- Reads a field that must be there. -/
def field (name : String) (d : Decoder α) : Fields α := do
  match ← next? name with
  | some j => d j
  | none => none

/-- Reads a field that may be missing. -/
def fieldOr (name : String) (d : Decoder α) (default : α) : Fields α := do
  match ← next? name with
  | some j => d j
  | none => return default

/-- Reads a field that may be null, or missing from an object. -/
def field? (name : String) (d : Decoder α) : Fields (Option α)
  | .named fields => fieldOr name (optional d) none (.named fields)
  | .listed items => field name (optional d) (.listed items)

/-- Reads a field that may be null or missing. -/
def fieldOrNone (name : String) (d : Decoder α) : Fields (Option α) := fieldOr name (optional d) none

/-- Reads all of a row. -/
def Row.readAll (row : Row) (fields : Fields α) : Option α := do
  let (a, rest) ← fields.run row
  if rest.isDone then some a else none

def record (fields : Fields α) : Decoder α
  | .obj fs => Row.readAll (.named fs) fields
  | .arr items => Row.readAll (.listed items) fields
  | _ => none

/-- Reads a record of which more values may be listed than it has fields. -/
def recordAtFront (fields : Fields α) : Decoder α
  | .arr items => (fields.run (.listed items)).map Prod.fst
  | j => record fields j

/-- Reads a record of one of several kinds, of which the tag is a field, or the first of the list. -/
def tagged (key : String) (kind : Decoder β) (fields : β → Fields α) : Decoder α
  | .obj fs => do
    let b ← kind (← Json.Fields.get? fs key)
    Row.readAll (.named fs) (fields b)
  | .arr (j :: rest) => do
    let b ← kind j
    Row.readAll (.listed rest) (fields b)
  | _ => none

end Decoder
end Docket
