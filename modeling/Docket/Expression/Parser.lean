import Docket.Expression
import Docket.Expression.Lexer

/-!
# From tokens to expressions

`parse` reads a source as one expression:

    expr       := or [ "if" or "else" expr ]
    or         := and { "or" and }
    and        := not { "and" not }
    not        := "not" not | comparison
    comparison := unary { relation unary }
    unary      := ("-" | "+") unary | postfix
    postfix    := primary { "[" literal "]" }
    primary    := literal | name | name "(" [ argument { "," argument } ] ")" | "(" expr ")"

Nesting is limited: every `expr` that is being read, every open parenthesis, every pending `not`
and every pending sign takes one of `maxDepth` levels.  A `Level` holds the three parsers that take
a level, and `level` builds them from those one level further in; so reading is a recursion on the
levels that are left, and every loop is a recursion on the tokens.

A token that would start something the language leaves out is reported as forbidden, together with
the source from there on.
-/

namespace Docket.Expression

open Text

/-- How many levels of nesting may be open at once. -/
def maxDepth : Nat := 64

/-- The constant that a token is. -/
def Lexeme.literal? : Lexeme → Option Json
  | .int i => some (.num (.int i))
  | .float (some x) => some (.num (.float x))
  | .str s => some (.str s)
  | .keyword .true => some (.bool true)
  | .keyword .false => some (.bool false)
  | .keyword .none => some .null
  | _ => none

/-- What a reader makes of the tokens before it: a result and the tokens after it. -/
abbrev Reader (α : Type) := List Token → Except Error (α × List Token)

def peek : List Token → Lexeme
  | [] => .stop
  | t :: _ => t.lexeme

def column : List Token → Nat
  | [] => 0
  | t :: _ => t.column

/-- The source from a column on, without the blanks around it. -/
def textFrom (source : List Char) (column : Nat) : String :=
  String.ofList (trim (source.drop column))

/-- The error that what stands at a column is not part of the language. -/
def forbiddenAt (source : List Char) (column : Nat) : Error :=
  .forbidden (textFrom source column) column

/-- The error that the first token may not stand where it stands. -/
def unexpected (source : List Char) (ts : List Token) : Error :=
  match peek ts with
  | .operator _ | .reserved _ => forbiddenAt source (column ts)
  | .stop => .parse (column ts) .unexpectedEnd
  | k => .parse (column ts) (.unexpectedToken k.text)

/-! ## Loops -/

/-- Items that each follow a separator, for as long as separators come. -/
def readSeparated {α : Type} (separator : Lexeme) (item : Reader α) :
    (fuel : Nat) → Reader (List α)
  | 0, ts => .ok ([], ts)
  | fuel + 1, ts =>
    match ts with
    | [] => .ok ([], [])
    | t :: rest =>
      if t.lexeme = separator then do
        let (x, rest) ← item rest
        let (xs, rest) ← readSeparated separator item fuel rest
        return (x :: xs, rest)
      else .ok ([], ts)

/-- One item, or several that a separator joins. -/
def readChain (join : List Expression → Expression) (separator : Lexeme)
    (item : Reader Expression) : Reader Expression := fun ts => do
  let (first, rest) ← item ts
  let (more, rest) ← readSeparated separator item rest.length rest
  return (if more.isEmpty then first else join (first :: more), rest)

/-- The comparison that the tokens start with, and the tokens after it. -/
def readRelation : List Token → Option (Relation × List Token)
  | ⟨.mark .equal, _⟩ :: ts => some (.equal, ts)
  | ⟨.mark .notEqual, _⟩ :: ts => some (.notEqual, ts)
  | ⟨.mark .less, _⟩ :: ts => some (.less, ts)
  | ⟨.mark .lessEqual, _⟩ :: ts => some (.lessEqual, ts)
  | ⟨.mark .greater, _⟩ :: ts => some (.greater, ts)
  | ⟨.mark .greaterEqual, _⟩ :: ts => some (.greaterEqual, ts)
  | ⟨.keyword .member, _⟩ :: ts => some (.member, ts)
  | ⟨.keyword .negation, _⟩ :: ⟨.keyword .member, _⟩ :: ts => some (.notMember, ts)
  | ⟨.keyword .identity, _⟩ :: ⟨.keyword .negation, _⟩ :: ts => some (.notIdentical, ts)
  | ⟨.keyword .identity, _⟩ :: ts => some (.identical, ts)
  | _ => none

/-- Operands that each follow a comparison. -/
def readRelations (operand : Reader Expression) :
    (fuel : Nat) → Reader (List (Relation × Expression))
  | 0, ts => .ok ([], ts)
  | fuel + 1, ts =>
    match readRelation ts with
    | none => .ok ([], ts)
    | some (r, rest) => do
      let (e, rest) ← operand rest
      let (more, rest) ← readRelations operand fuel rest
      return ((r, e) :: more, rest)

/-- A chain of comparisons. -/
def readComparison (operand : Reader Expression) : Reader Expression := fun ts => do
  let (first, rest) ← operand ts
  let (more, rest) ← readRelations operand rest.length rest
  return (if more.isEmpty then first else .compare first more, rest)

/-- The subscripts after a primary expression that started at `start`. -/
def readSubscripts (source : List Char) (start : Nat) (e : Expression) : Reader Expression
  | ⟨.mark .openBracket, c⟩ :: k :: ⟨.mark .closeBracket, _⟩ :: ts =>
    match k.lexeme.literal? with
    | some key => readSubscripts source start (.subscript e key) ts
    | none => .error (.nonConstantSubscript c)
  | ⟨.mark .openBracket, c⟩ :: _ => .error (.nonConstantSubscript c)
  | ⟨.mark .openParen, _⟩ :: _ => .error (.invalidCall (textFrom source start))
  | ⟨.operator ".", _⟩ :: _ => .error (forbiddenAt source start)
  | ts => .ok (e, ts)

/-- The argument that a token is. -/
def Lexeme.argument? : Lexeme → Option Argument
  | .name n => some (.name n)
  | k => k.literal?.map .literal

/-- The arguments of a call whose name stands at `start`, up to the closing parenthesis. -/
def readArguments (source : List Char) (start : Nat) : Reader (List Argument)
  | a :: ⟨.mark .comma, _⟩ :: ts =>
    match a.lexeme.argument? with
    | some x => do
      let (xs, rest) ← readArguments source start ts
      return (x :: xs, rest)
    | none => .error (.invalidCall (textFrom source start))
  | a :: ⟨.mark .closeParen, _⟩ :: ts =>
    match a.lexeme.argument? with
    | some x => .ok ([x], ts)
    | none => .error (.invalidCall (textFrom source start))
  | _ => .error (.invalidCall (textFrom source start))

/-! ## Levels -/

/-- The parsers that take a level of nesting. -/
structure Level where
  expr : Reader Expression
  negation : Reader Expression
  unary : Reader Expression

/-- Goes one level further in, if there is one. -/
def descend (inner : Option Level) (ts : List Token) (reader : Level → Reader Expression)
    (rest : List Token) : Except Error (Expression × List Token) :=
  match inner with
  | none => .error (.parse (column ts) .tooDeep)
  | some l => reader l rest

/-- A literal, a name, a call or an expression between parentheses. -/
def readPrimary (source : List Char) (inner : Option Level) : Reader Expression := fun ts =>
  match ts with
  | [] => .error (unexpected source ts)
  | t :: rest =>
    match t.lexeme.literal? with
    | some v => .ok (.literal v, rest)
    | none =>
      match t.lexeme with
      | .name n =>
        match rest with
        | ⟨.mark .openParen, _⟩ :: ⟨.mark .closeParen, _⟩ :: rest => .ok (.call n [] t.column, rest)
        | ⟨.mark .openParen, _⟩ :: rest => do
          let (arguments, rest) ← readArguments source t.column rest
          return (.call n arguments t.column, rest)
        | _ => .ok (.name n t.column, rest)
      | .mark .openParen => do
        let (e, rest) ← descend inner ts Level.expr rest
        match rest with
        | ⟨.mark .closeParen, _⟩ :: rest => return (e, rest)
        | ⟨.mark .comma, _⟩ :: _ => .error (forbiddenAt source t.column)
        | _ => .error (unexpected source rest)
      | .mark .openBracket | .reserved _ | .operator _ => .error (forbiddenAt source t.column)
      | _ => .error (unexpected source ts)

/-- A primary expression with its subscripts. -/
def readPostfix (source : List Char) (inner : Option Level) : Reader Expression := fun ts => do
  let (e, rest) ← readPrimary source inner ts
  readSubscripts source (column ts) e rest

/-- Whether a token after an operand would start arithmetic. -/
def Lexeme.isArithmetic : Lexeme → Bool
  | .mark .plus | .mark .minus => true
  | .operator o => o != "=" && o != ":="
  | _ => false

/-- An operand with its signs. -/
def readUnary (source : List Char) (inner : Option Level) : Reader Expression := fun ts => do
  let (e, rest) ←
    match ts with
    | ⟨.mark .minus, _⟩ :: rest => do
      let (e, rest) ← descend inner ts Level.unary rest
      Except.ok (Expression.negative e, rest)
    | ⟨.mark .plus, _⟩ :: rest => do
      let (e, rest) ← descend inner ts Level.unary rest
      Except.ok (Expression.positive e, rest)
    | _ => readPostfix source inner ts
  if (peek rest).isArithmetic then .error (forbiddenAt source (column ts))
  else .ok (e, rest)

/-- A comparison, or the negation of one. -/
def readNegation (source : List Char) (inner : Option Level) : Reader Expression := fun ts =>
  match ts with
  | ⟨.keyword .negation, _⟩ :: rest => do
    let (e, rest) ← descend inner ts Level.negation rest
    return (.not e, rest)
  | _ => readComparison (readUnary source inner) ts

/-- Disjunctions of conjunctions. -/
def readOr (l : Level) : Reader Expression :=
  readChain .any (.keyword .disj) (readChain .all (.keyword .conj) l.negation)

/-- A whole expression, with the operands of the given level. -/
def readConditional (source : List Char) (l : Level) : Reader Expression := fun ts => do
  let (value, rest) ← readOr l ts
  let (e, rest) ←
    match rest with
    | ⟨.keyword .condition, _⟩ :: rest => do
      let (condition, rest) ← readOr l rest
      match rest with
      | ⟨.keyword .alternative, _⟩ :: rest => do
        let (otherwise, rest) ← l.expr rest
        Except.ok (Expression.choose condition value otherwise, rest)
      | _ => Except.error (Error.parse (column rest) .missingElse)
    | _ => Except.ok (value, rest)
  match peek rest with
  | .operator "=" | .operator ":=" => .error (forbiddenAt source (column ts))
  | _ => .ok (e, rest)

/-- The parsers of a level, given those of the next one further in. -/
def Level.around (source : List Char) (inner : Option Level) : Level where
  expr ts := descend inner ts (readConditional source) ts
  negation := readNegation source inner
  unary := readUnary source inner

/-- The parsers with the given number of levels left. -/
def level (source : List Char) : Nat → Level
  | 0 => .around source none
  | n + 1 => .around source (some (level source n))

def parse (source : String) : Except Error Expression := do
  let ts ← lex source
  if peek ts = .stop then throw (.parse 0 .empty)
  let (e, rest) ← (level source.toList maxDepth).expr ts
  match peek rest with
  | .stop => return e
  | _ => throw (unexpected source.toList rest)

end Docket.Expression
