import Docket.Json

/-!
# Kinds of values

The kind of a value is what messages call its type.  Integers and floating-point numbers are two
kinds, as they are two kinds of numbers.
-/

namespace Docket

/-- What messages call the type of a value. -/
inductive Kind where
  | none
  | bool
  | int
  | float
  | str
  | list
  | dict
  deriving DecidableEq, Repr

def Kind.name : Kind → String
  | .none => "None"
  | .bool => "bool"
  | .int => "int"
  | .float => "float"
  | .str => "str"
  | .list => "list"
  | .dict => "dict"

def Json.kind : Json → Kind
  | .null => .none
  | .bool _ => .bool
  | .num (.int _) => .int
  | .num (.float _) => .float
  | .str _ => .str
  | .arr _ => .list
  | .obj _ => .dict

end Docket
