import Docket.Json.Writer

/-!
# The text of a value for people

The text of a JSON value with each item and each field on a line of its own, two blanks deeper than
what it is in.  Empty lists and objects stay on one line.
-/

namespace Docket.Json

/-- The start of a line at a depth. -/
def indent (depth : Nat) : String := "\n" ++ String.ofList (List.replicate (2 * depth) ' ')

mutual

/-- The text of a value at a depth. -/
def prettyAt (depth : Nat) : Json → String
  | .arr [] => "[]"
  | .obj [] => "\x7b\x7d"
  | .arr items => "[" ++ ",".intercalate (prettyItems (depth + 1) items) ++ indent depth ++ "]"
  | .obj fields =>
    "\x7b" ++ ",".intercalate (prettyFields (depth + 1) fields) ++ indent depth ++ "\x7d"
  | .null => "null"
  | .bool b => write (.bool b)
  | .num n => n.write
  | .str s => quote s

def prettyItems (depth : Nat) : List Json → List String
  | [] => []
  | x :: rest => (indent depth ++ prettyAt depth x) :: prettyItems depth rest

def prettyFields (depth : Nat) : Fields → List String
  | [] => []
  | (k, v) :: rest =>
    (indent depth ++ quote k ++ ": " ++ prettyAt depth v) :: prettyFields depth rest

end

/-- The text of a value on several lines. -/
def pretty (j : Json) : String := prettyAt 0 j

end Docket.Json
