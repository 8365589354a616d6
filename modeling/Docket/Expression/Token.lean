import Docket.Double.Shortest

/-!
# Tokens

The tokens of an expression are names, constants, keywords, the marks of the language, and the
words and operators that belong to other languages and are always refused.  Every source ends with
the token `stop`.
-/

namespace Docket.Expression

/-- The words of the language. -/
inductive Keyword where
  | conj
  | disj
  | negation
  | member
  | identity
  | condition
  | alternative
  | true
  | false
  | none
  deriving DecidableEq, Repr

def Keyword.text : Keyword → String
  | .conj => "and"
  | .disj => "or"
  | .negation => "not"
  | .member => "in"
  | .identity => "is"
  | .condition => "if"
  | .alternative => "else"
  | .true => "True"
  | .false => "False"
  | .none => "None"

def Keyword.list : List Keyword :=
  [.conj, .disj, .negation, .member, .identity, .condition, .alternative, .true, .false, .none]

def Keyword.ofText? (text : String) : Option Keyword := list.find? (·.text == text)

/-- The marks of the language. -/
inductive Mark where
  | equal
  | notEqual
  | less
  | lessEqual
  | greater
  | greaterEqual
  | openParen
  | closeParen
  | openBracket
  | closeBracket
  | comma
  | colon
  | plus
  | minus
  deriving DecidableEq, Repr

def Mark.text : Mark → String
  | .equal => "=="
  | .notEqual => "!="
  | .less => "<"
  | .lessEqual => "<="
  | .greater => ">"
  | .greaterEqual => ">="
  | .openParen => "("
  | .closeParen => ")"
  | .openBracket => "["
  | .closeBracket => "]"
  | .comma => ","
  | .colon => ":"
  | .plus => "+"
  | .minus => "-"

/-- What a token is. A floating-point numeral beyond the numbers of the format has no value. -/
inductive Lexeme where
  | name (name : String)
  | int (value : Int)
  | float (value : Option Double)
  | str (text : String)
  | keyword (word : Keyword)
  | mark (mark : Mark)
  | reserved (word : String)
  | operator (text : String)
  | stop
  deriving DecidableEq, Repr

/-- A token at its column, counted in characters from zero. -/
structure Token where
  lexeme : Lexeme
  column : Nat
  deriving DecidableEq, Repr

/-- How a message shows a token. -/
def Lexeme.text : Lexeme → String
  | .name n => n
  | .int i => toString i
  | .float (some x) => Double.Layout.plain.write x
  | .float none => "inf"
  | .str s => "'" ++ s ++ "'"
  | .keyword w => w.text
  | .mark m => m.text
  | .reserved w => w
  | .operator o => o
  | .stop => "end of input"

/-- The words that the language keeps out. -/
def reservedWords : List String :=
  ["lambda", "import", "from", "def", "class", "for", "while", "yield", "await", "async",
    "del", "global", "nonlocal", "return", "with", "as", "assert", "pass", "raise", "try",
    "except", "finally", "exec", "eval"]

/-- The operators that the language keeps out, an operator before each of its beginnings. -/
def foreignOperators : List String :=
  ["**=", "//=", ">>=", "<<=", "**", "//", "<<", ">>", "+=", "-=", "*=", "/=", "%=", "&=",
    "|=", "^=", ":=", "->", "*", "/", "%", "@", "&", "|", "^", "~", ".", "=", "\x7b", "\x7d", ";",
    "!", "$", "?", "\x60"]

end Docket.Expression
