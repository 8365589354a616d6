import Docket.Json

/-!
# The tables of a TOML document

A document is a table of named values and tables.  A table comes about in one of three ways: by a
heading of its own, on the way to the heading of another table, or on the way to a value with a
dotted name.  No value and no heading may be given twice, and a table is filled only from where it
came about; but a table that was only on the way to another may still get its own heading.
-/

namespace Docket.Toml

/-- How a table came about. -/
inductive TableKind where
  | heading
  | implied
  | dotted
  deriving DecidableEq, Repr

/-- What a name stands for: a value, a table, or a list of tables with the last one first. -/
inductive Node where
  | value (value : Json)
  | table (kind : TableKind) (fields : List (String × Node))
  | tables (items : List (List (String × Node)))
  deriving Repr, Inhabited

/-- The names of a table in order. -/
abbrev Fields := List (String × Node)

namespace Fields

/-- Puts a node in the place of the one with the same name. -/
def replace (name : String) (node : Node) (fields : Fields) : Fields :=
  fields.map fun f => if f.1 = name then (name, node) else f

/-- Changes the table at the end of a path.  A table that is missing is made, of a given kind, and a
table that is there must admit the path, which may end in it. -/
def enter (admits : TableKind → (isEnd : Bool) → Bool) (made : TableKind)
    (change : Fields → Option Fields) : (path : List String) → Fields → Option Fields
  | [], fields => change fields
  | name :: rest, fields =>
    match fields.lookup name with
    | none =>
      (enter admits made change rest []).map fun sub => fields ++ [(name, .table made sub)]
    | some (.table kind sub) =>
      if admits kind rest.isEmpty then
        (enter admits made change rest sub).map fun sub => fields.replace name (.table kind sub)
      else none
    | some (.tables (last :: before)) =>
      if admits .implied rest.isEmpty then
        (enter admits made change rest last).map fun sub =>
          fields.replace name (.tables (sub :: before))
      else none
    | some _ => none

/-- Changes the table under a heading. -/
def under (heading : List String) (change : Fields → Option Fields) (fields : Fields) :
    Option Fields :=
  enter (fun _ _ => true) .implied change heading fields

/-- Sets a value with a dotted name. -/
def setValue (path : List String) (value : Json) (fields : Fields) : Option Fields :=
  let admits (kind : TableKind) (isEnd : Bool) : Bool :=
    match kind with
    | .heading => false
    | .implied => !isEnd
    | .dotted => true
  match path.getLast? with
  | none => none
  | some name =>
    enter admits .dotted
      (fun t => if (t.lookup name).isSome then none else some (t ++ [(name, .value value)]))
      path.dropLast fields

/-- Makes the table of a heading. -/
def addTable (heading : List String) (fields : Fields) : Option Fields :=
  match heading.getLast? with
  | none => none
  | some name =>
    under heading.dropLast (fun t =>
      match t.lookup name with
      | none => some (t ++ [(name, .table .heading [])])
      | some (.table .implied sub) => some (t.replace name (.table .heading sub))
      | some _ => none) fields

/-- Makes the next table of the list of a heading. -/
def addToTables (heading : List String) (fields : Fields) : Option Fields :=
  match heading.getLast? with
  | none => none
  | some name =>
    under heading.dropLast (fun t =>
      match t.lookup name with
      | none => some (t ++ [(name, .tables [[]])])
      | some (.tables items) => some (t.replace name (.tables ([] :: items)))
      | some _ => none) fields

end Fields

mutual

def Node.toJson : Node → Json
  | .value v => v
  | .table _ fields => Json.object (Fields.toList fields)
  | .tables items => .arr (Fields.listJson items).reverse

/-- The values of a table by their names. -/
def Fields.toList : Fields → List (String × Json)
  | [] => []
  | (name, node) :: rest => (name, node.toJson) :: Fields.toList rest

def Fields.listJson : List (List (String × Node)) → List Json
  | [] => []
  | fields :: rest => Json.object (Fields.toList fields) :: Fields.listJson rest

end

end Docket.Toml
