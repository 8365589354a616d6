import Docket.Expression.Kind
import Docket.Json.Writer

/-!
# What can go wrong with an expression

An expression is refused while it is read (a fault of its text, a construct that is not part of the
language, a name that is not admitted) or fails while it is evaluated (a variable without a value,
an operation on values it does not take).  Errors are causes; `Error.message` is their wording.
-/

namespace Docket.Expression

/-- Faults of the text of an expression or a template. -/
inductive Fault where
  | empty
  | unterminatedText
  | unexpectedCharacter (char : Char)
  | invalidNumber (text : String)
  | tooDeep
  | missingElse
  | unexpectedEnd
  | unexpectedToken (text : String)
  | unterminatedPlaceholder
  | emptyPlaceholder
  deriving DecidableEq, Repr

def Fault.message : Fault → String
  | .empty => "empty expression"
  | .unterminatedText => "unterminated string literal"
  | .unexpectedCharacter c => "unexpected character '" ++ c.toString ++ "'"
  | .invalidNumber text => "invalid number literal '" ++ text ++ "'"
  | .tooDeep => "expression is nested too deeply"
  | .missingElse => "expected 'else' in conditional expression"
  | .unexpectedEnd => "unexpected end of input"
  | .unexpectedToken text => "unexpected token '" ++ text ++ "'"
  | .unterminatedPlaceholder => "unterminated template placeholder"
  | .emptyPlaceholder => "empty template placeholder"

/-- Operations that do not take the values they were given. -/
inductive Misuse where
  | sign (sign : Char) (operand : Kind)
  | order (left right : Kind)
  | textMember (item : Kind)
  | notIterable (container : Kind)
  | missingKey (key : Json)
  | notSubscriptable (target key : Kind)
  | call (function message : String)
  deriving DecidableEq, Repr

def Misuse.message : Misuse → String
  | .sign c k => "bad operand type for unary " ++ c.toString ++ ": '" ++ k.name ++ "'"
  | .order l r => "cannot order " ++ l.name ++ " and " ++ r.name
  | .textMember k => "'in <string>' requires string as left operand, not " ++ k.name
  | .notIterable k => "argument of type " ++ k.name ++ " is not iterable"
  | .missingKey key => "key " ++ key.write ++ " not found"
  | .notSubscriptable t k => t.name ++ " is not subscriptable with " ++ k.name
  | .call function message => function ++ "(): " ++ message

/-- Why an expression is refused or fails. -/
inductive Error where
  | parse (column : Nat) (fault : Fault)
  | forbidden (construct : String) (column : Nat)
  | nonConstantSubscript (column : Nat)
  | invalidVariable (name : String)
  | invalidCall (text : String)
  | unknownFunction (name : String)
  | undefinedVariable (name : String)
  | evaluation (misuse : Misuse)
  deriving DecidableEq, Repr

def Error.message : Error → String
  | .parse column fault =>
    "could not parse expression at column " ++ toString column ++ ": " ++ fault.message
  | .forbidden construct column =>
    "expression \"" ++ construct ++ "\" is forbidden (column " ++ toString column ++ ")"
  | .nonConstantSubscript column =>
    "subscript index must be a constant (column " ++ toString column ++ ")"
  | .invalidVariable n => "invalid variable name: '" ++ n ++ "'"
  | .invalidCall text => "call is invalid: '" ++ text ++ "'"
  | .unknownFunction f => "unknown function: '" ++ f ++ "'"
  | .undefinedVariable n => "variable is not defined: '" ++ n ++ "'"
  | .evaluation misuse => "evaluation failed: " ++ misuse.message

/-- Whether the error is found before any value is known. -/
def Error.isValidation : Error → Bool
  | .undefinedVariable _ | .evaluation _ => false
  | _ => true

/-- The same error with its column moved to the right. -/
def Error.shift (offset : Nat) : Error → Error
  | .parse column fault => .parse (column + offset) fault
  | .forbidden construct column => .forbidden construct (column + offset)
  | .nonConstantSubscript column => .nonConstantSubscript (column + offset)
  | e => e

end Docket.Expression
