import Docket.Expression
import Docket.Expression.Function

/-!
# The value of an expression

`eval` gives the value of an expression under an assignment of values to variables and a registry
of functions.  `and` and `or` stop at the operand that decides and give its value; a chain of
comparisons stops at the first that fails, and each operand is evaluated once.
-/

namespace Docket.Expression

/-- The values of the variables that have one. -/
abbrev Variables := String → Option Json

def valueOf (vars : Variables) (name : String) : Except Error Json :=
  match vars name with
  | some v => .ok v
  | none => .error (.undefinedVariable name)

def argumentValues (vars : Variables) : List Argument → Except Error (List Json)
  | [] => .ok []
  | .literal v :: rest => do
    let vs ← argumentValues vars rest
    return v :: vs
  | .name n :: rest => do
    let v ← valueOf vars n
    let vs ← argumentValues vars rest
    return v :: vs

/-- The outcome of an operation on values as the outcome of an expression. -/
def lift {α : Type} : Except Misuse α → Except Error α
  | .ok x => .ok x
  | .error m => .error (.evaluation m)

/-- A value with its sign changed. -/
def negate : Json → Except Misuse Json
  | .num n =>
    match n.int64? with
    | some i => .ok (if i = Number.minInt then .num (.float (Double.ofInt (-i))) else .int (-i))
    | none => .ok (.num (.float n.toDouble.neg))
  | .bool b => .ok (.int (if b then -1 else 0))
  | other => .error (.sign '-' other.kind)

/-- A value under a plus sign. -/
def affirm : Json → Except Misuse Json
  | .num n => .ok (.num n)
  | .bool b => .ok (.int (if b then 1 else 0))
  | other => .error (.sign '+' other.kind)

mutual

def eval (vars : Variables) (functions : Functions) : Expression → Except Error Json
  | .literal v => .ok v
  | .name n _ => valueOf vars n
  | .subscript target key => do
    let t ← eval vars functions target
    lift (t.item key)
  | .call function arguments _ => do
    match functions function with
    | none => .error (.unknownFunction function)
    | some f =>
      let vs ← argumentValues vars arguments
      match f vs with
      | .ok v => .ok v
      | .error message => .error (.evaluation (.call function message))
  | .not e => do
    let v ← eval vars functions e
    return .bool (!v.truthy)
  | .negative e => do
    let v ← eval vars functions e
    lift (negate v)
  | .positive e => do
    let v ← eval vars functions e
    lift (affirm v)
  | .all es => evalAll vars functions (.bool true) es
  | .any es => evalAny vars functions (.bool false) es
  | .compare first rest => do
    let v ← eval vars functions first
    evalRest vars functions v rest
  | .choose c t e => do
    let v ← eval vars functions c
    if v.truthy then eval vars functions t else eval vars functions e

/-- The value of the first operand that is not true, or of the last one. -/
def evalAll (vars : Variables) (functions : Functions) (last : Json) :
    List Expression → Except Error Json
  | [] => .ok last
  | e :: es => do
    let v ← eval vars functions e
    if v.truthy then evalAll vars functions v es else .ok v

/-- The value of the first operand that is true, or of the last one. -/
def evalAny (vars : Variables) (functions : Functions) (last : Json) :
    List Expression → Except Error Json
  | [] => .ok last
  | e :: es => do
    let v ← eval vars functions e
    if v.truthy then .ok v else evalAny vars functions v es

/-- Whether the remaining comparisons of a chain hold, the first of them against `left`. -/
def evalRest (vars : Variables) (functions : Functions) (left : Json) :
    List (Relation × Expression) → Except Error Json
  | [] => .ok (.bool true)
  | (r, e) :: es => do
    let right ← eval vars functions e
    let holds ← lift (r.holds left right)
    if holds then evalRest vars functions right es else .ok (.bool false)

end

end Docket.Expression
