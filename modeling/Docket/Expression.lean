import Docket.Json

/-!
# Expressions

The conditions of a workflow and the placeholders of its texts are expressions: literals, names,
subscripts with a constant key, calls of registered functions with plain arguments, signs, boolean
operators, chained comparisons and the conditional.  The tree has no form for anything else, so an
expression that was read can neither compute with numbers nor reach into the program.

`names` and `calls` list the variables and the functions that a tree mentions, in the order in
which they stand in the text.
-/

namespace Docket

/-- The comparisons. -/
inductive Relation where
  | equal
  | notEqual
  | less
  | lessEqual
  | greater
  | greaterEqual
  | member
  | notMember
  | identical
  | notIdentical
  deriving DecidableEq, Repr

def Relation.text : Relation → String
  | .equal => "=="
  | .notEqual => "!="
  | .less => "<"
  | .lessEqual => "<="
  | .greater => ">"
  | .greaterEqual => ">="
  | .member => "in"
  | .notMember => "not in"
  | .identical => "is"
  | .notIdentical => "is not"

/-- An argument of a call: a variable or a constant. -/
inductive Argument where
  | name (name : String)
  | literal (value : Json)
  deriving DecidableEq, Repr

/-- An expression. Names and calls remember the column at which they stand. -/
inductive Expression where
  | literal (value : Json)
  | name (name : String) (column : Nat)
  | subscript (target : Expression) (key : Json)
  | call (function : String) (arguments : List Argument) (column : Nat)
  | not (operand : Expression)
  | negative (operand : Expression)
  | positive (operand : Expression)
  | all (operands : List Expression)
  | any (operands : List Expression)
  | compare (first : Expression) (rest : List (Relation × Expression))
  | choose (condition thenValue elseValue : Expression)
  deriving Inhabited, Repr

namespace Expression

/-- The variable that an argument names. -/
def argumentNames : List Argument → List String
  | [] => []
  | .name n :: rest => n :: argumentNames rest
  | .literal _ :: rest => argumentNames rest

mutual

/-- The variables of an expression, in order and with repeats. -/
def names : Expression → List String
  | .literal _ => []
  | .name n _ => [n]
  | .subscript target _ => names target
  | .call _ arguments _ => argumentNames arguments
  | .not e | .negative e | .positive e => names e
  | .all es | .any es => namesAll es
  | .compare first rest => names first ++ namesRest rest
  | .choose c t e => names c ++ names t ++ names e

def namesAll : List Expression → List String
  | [] => []
  | e :: es => names e ++ namesAll es

def namesRest : List (Relation × Expression) → List String
  | [] => []
  | (_, e) :: es => names e ++ namesRest es

end

mutual

/-- The functions that an expression calls, in order and with repeats. -/
def calls : Expression → List String
  | .literal _ | .name _ _ => []
  | .subscript target _ => calls target
  | .call function _ _ => [function]
  | .not e | .negative e | .positive e => calls e
  | .all es | .any es => callsAll es
  | .compare first rest => calls first ++ callsRest rest
  | .choose c t e => calls c ++ calls t ++ calls e

def callsAll : List Expression → List String
  | [] => []
  | e :: es => calls e ++ callsAll es

def callsRest : List (Relation × Expression) → List String
  | [] => []
  | (_, e) :: es => calls e ++ callsRest es

end

mutual

/-- The greatest number of expressions nested in each other. -/
def height : Expression → Nat
  | .literal _ | .name _ _ | .call _ _ _ => 1
  | .subscript target _ => height target + 1
  | .not e | .negative e | .positive e => height e + 1
  | .all es | .any es => heightAll es + 1
  | .compare first rest => max (height first) (heightRest rest) + 1
  | .choose c t e => max (height c) (max (height t) (height e)) + 1

def heightAll : List Expression → Nat
  | [] => 0
  | e :: es => max (height e) (heightAll es)

def heightRest : List (Relation × Expression) → Nat
  | [] => 0
  | (_, e) :: es => max (height e) (heightRest es)

end

end Expression
end Docket
