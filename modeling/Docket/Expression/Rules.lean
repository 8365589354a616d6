import Docket.Expression.Eval
import Docket.Expression.Parser
import Docket.Expression.Template

/-!
# What expressions may mention

A catalogue says which variables expressions may name, and a registry which functions they may
call; together they are the `Rules` under which a source is checked before it is ever evaluated.
A name that starts with an underscore is never admitted, so what the system keeps under such names
is out of the reach of every expression.

The same rules read templates.  A template with a single placeholder and nothing but blanks around
it has the value of its expression; every other template has a text.
-/

namespace Docket.Expression

/-- The variables that expressions may name: all of them, or those of a declared list, where an
entry that ends in a star stands for all names with that beginning. -/
inductive Catalogue where
  | free
  | declared (entries : List String)
  deriving DecidableEq, Repr

/-- Whether an entry of a declared list stands for a name. -/
def entryAdmits (entry name : List Char) : Bool :=
  match entry.getLast? with
  | some '*' => entry.dropLast.isPrefixOf name
  | _ => entry == name

/-- Whether a variable may be named. -/
def Catalogue.admits (catalogue : Catalogue) (name : String) : Bool :=
  if name.toList.head? = some '_' then false
  else
    match catalogue with
    | .free => true
    | .declared entries => entries.any fun entry => entryAdmits entry.toList name.toList

/-- The variables and the functions that expressions may mention. -/
structure Rules where
  catalogue : Catalogue
  functions : Functions

/-- The rules that admit all variables and the functions of the language. -/
def Rules.default : Rules := ⟨.free, .builtin⟩

def Functions.has (functions : Functions) (name : String) : Bool := (functions name).isSome

namespace Rules

/-- Checks the variables of an expression, and after them its functions. -/
def check (rules : Rules) (e : Expression) : Except Error Unit :=
  match e.names.find? (fun n => !rules.catalogue.admits n) with
  | some n => .error (.invalidVariable n)
  | none =>
    match e.calls.find? (fun f => !rules.functions.has f) with
    | some f => .error (.unknownFunction f)
    | none => .ok ()

/-- The expression of a source, checked. -/
def compile (rules : Rules) (source : String) : Except Error Expression := do
  let e ← parse source
  rules.check e
  return e

def evaluate (rules : Rules) (vars : Variables) (source : String) : Except Error Json := do
  let e ← rules.compile source
  e.eval vars rules.functions

/-- Whether the value of a source is true. -/
def condition (rules : Rules) (vars : Variables) (source : String) : Except Error Bool := do
  let v ← rules.evaluate vars source
  return v.truthy

end Rules

/-- A piece of a template that was read. -/
inductive Part where
  | text (text : String)
  | expr (source : String) (tree : Expression)
  deriving Repr

/-- The expression of a template that has nothing but blanks besides. -/
def soleExpression : List Part → Option Expression
  | [] => none
  | .text t :: rest => if Text.isBlankText t then soleExpression rest else none
  | .expr _ e :: rest => if rest.all isBlankPart then some e else none
where
  /-- Whether a piece is plain text without anything but blanks. -/
  isBlankPart : Part → Bool
    | .text t => Text.isBlankText t
    | .expr _ _ => false

/-- The texts of the pieces of a template, one after the other. -/
def renderParts (vars : Variables) (functions : Functions) : List Part → Except Error String
  | [] => .ok ""
  | .text t :: rest => do
    let s ← renderParts vars functions rest
    return t ++ s
  | .expr _ e :: rest => do
    let v ← e.eval vars functions
    let s ← renderParts vars functions rest
    return v.text ++ s

/-- The value of a template that was read. -/
def renderTemplate (vars : Variables) (functions : Functions) (parts : List Part) :
    Except Error Json :=
  match soleExpression parts with
  | some e => e.eval vars functions
  | none => (renderParts vars functions parts).map .str

namespace Rules

/-- Reads the pieces of a template in order. -/
def compileParts (rules : Rules) : List Segment → Except Error (List Part)
  | [] => .ok []
  | .text t :: rest => do
    let parts ← rules.compileParts rest
    return .text t :: parts
  | .placeholder source column :: rest => do
    match rules.compile source with
    | .error e => .error (e.shift column)
    | .ok tree =>
      let parts ← rules.compileParts rest
      return .expr source tree :: parts

def compileTemplate (rules : Rules) (template : String) : Except Error (List Part) := do
  let segments ← splitTemplate template
  rules.compileParts segments

/-- The value of a text: of a template if it has marks of one, else the text itself. -/
def render (rules : Rules) (vars : Variables) (text : String) : Except Error Json :=
  if isTemplate text then do
    let parts ← rules.compileTemplate text
    renderTemplate vars rules.functions parts
  else .ok (.str text)

def renderText (rules : Rules) (vars : Variables) (text : String) : Except Error String := do
  let v ← rules.render vars text
  return v.text

end Rules
end Docket.Expression
