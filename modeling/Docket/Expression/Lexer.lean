import Docket.Expression.Error
import Docket.Expression.Token
import Docket.Text.Blank
import Docket.Text.Word

/-!
# From text to tokens

`lex` cuts a source into tokens.  Blanks separate tokens and are skipped; at every other place the
longest token that starts there is taken: a word, a numeral, a text between quotes, a mark of the
language, or an operator of another language, which later stages refuse by name.

`Lexeme.read` takes one token off a text and leaves a shorter text (`Lexeme.read_lt`), which is why
`lex` comes to an end.
-/

namespace Docket.Expression

open Text

/-! ## Texts between quotes -/

/-- The characters up to the closing quote with their escapes resolved, and the rest after it. -/
def readQuoted (quote : Char) : List Char → Option (List Char × List Char)
  | [] => none
  | c :: rest =>
    if c = quote then some ([], rest)
    else if c = '\\' then
      match rest with
      | [] => none
      | e :: rest =>
        let c := if e = 'n' then '\n' else if e = 't' then '\t' else if e = 'r' then '\r' else e
        (readQuoted quote rest).map fun (cs, rest) => (c :: cs, rest)
    else (readQuoted quote rest).map fun (cs, rest) => (c :: cs, rest)

theorem readQuoted_lt {quote : Char} {s cs rest : List Char}
    (h : readQuoted quote s = some (cs, rest)) : rest.length < s.length := by
  fun_induction readQuoted quote s generalizing cs rest <;>
    simp_all only [Option.map_eq_some_iff, Option.some.injEq, Prod.exists, Prod.mk.injEq,
      reduceCtorEq, List.length_cons]
  · omega
  · next ih =>
    obtain ⟨a, b, hr, _, rfl⟩ := h
    have := ih hr
    omega
  · next ih =>
    obtain ⟨a, b, hr, _, rfl⟩ := h
    have := ih hr
    omega

/-! ## Numerals -/

/-- The characters of a numeral. -/
structure NumeralText where
  text : List Char
  isFloat : Bool
  rest : List Char

/-- Takes the characters of a numeral: digits, underscores between them (which are dropped), one
point that a digit or the end follows, and exponents with their signs. -/
def readNumeral (isFloat : Bool) (text : List Char) : List Char → NumeralText
  | [] => ⟨text, isFloat, []⟩
  | c :: rest =>
    if isDigit c then readNumeral isFloat (text ++ [c]) rest
    else if c = '_' then readNumeral isFloat text rest
    else if c = '.' ∧ !isFloat ∧ rest.head?.all isDigit then
      readNumeral true (text ++ [c]) rest
    else if (c = 'e' ∨ c = 'E') ∧ text ≠ [] then
      match rest with
      | '+' :: rest => readNumeral true (text ++ [c, '+']) rest
      | '-' :: rest => readNumeral true (text ++ [c, '-']) rest
      | rest => readNumeral true (text ++ [c]) rest
    else ⟨text, isFloat, c :: rest⟩

/-- The number nearest to a numeral with a point or an exponent: digits before or after the point,
and an exponent of at least one digit.  A numeral beyond the format stands for no number, any other
text is no numeral. -/
def floatOf? (text : List Char) : Option (Option Double) :=
  let (whole, rest) := text.span isDigit
  let (fraction, rest) := match rest with
    | '.' :: rest => rest.span isDigit
    | rest => ([], rest)
  if whole.isEmpty && fraction.isEmpty then none
  else
    let exponent := match rest with
      | [] => some 0
      | c :: rest => if c = 'e' ∨ c = 'E' then Text.intOf? rest else none
    exponent.map fun e => Double.ofDecimal (natOf (whole ++ fraction)) (e - fraction.length)

/-- The integer that a run of digits stands for, if it has 64 bits and a sign. -/
def wholeOf? (ds : List Char) : Option Int :=
  if (natOf ds : Int) ≤ Number.maxInt64 then some (natOf ds) else none

def NumeralText.lexeme? (n : NumeralText) : Option Lexeme :=
  if n.rest.head?.any startsWord then none
  else if n.isFloat then (floatOf? n.text).map .float
  else (wholeOf? n.text).map .int

theorem readNumeral_le (isFloat : Bool) (text s : List Char) :
    (readNumeral isFloat text s).rest.length ≤ s.length := by
  fun_induction readNumeral isFloat text s <;> simp_all only [List.length_cons] <;> omega

/-! ## Words and operators -/

def wordLexeme (word : String) : Lexeme :=
  match Keyword.ofText? word with
  | some k => .keyword k
  | none => if word ∈ reservedWords then .reserved word else .name word

/-- The rest of a text that starts with the given characters. -/
def after? : (start : List Char) → List Char → Option (List Char)
  | [], s => some s
  | c :: cs, d :: ds => if c = d then after? cs ds else none
  | _ :: _, [] => none

theorem after?_length {start s rest : List Char} (h : after? start s = some rest) :
    start.length + rest.length = s.length := by
  induction start generalizing s with
  | nil => simp only [after?, Option.some.injEq] at h; simp [h]
  | cons c cs ih =>
    cases s with
    | nil => simp [after?] at h
    | cons d ds =>
      simp only [after?] at h
      split at h
      · have := ih h; simp only [List.length_cons]; omega
      · simp at h

/-- The first of the operators with which a text starts, and the rest after it. -/
def readOperator : (operators : List String) → List Char → Option (Lexeme × List Char)
  | [], _ => none
  | o :: os, s =>
    match after? o.toList s with
    | some rest => some (.operator o, rest)
    | none => readOperator os s

/-- The mark of the language with which a text starts, and the rest after it. -/
def readMark : List Char → Option (Mark × List Char)
  | '(' :: s => some (.openParen, s)
  | ')' :: s => some (.closeParen, s)
  | '[' :: s => some (.openBracket, s)
  | ']' :: s => some (.closeBracket, s)
  | ',' :: s => some (.comma, s)
  | '=' :: '=' :: s => some (.equal, s)
  | '!' :: '=' :: s => some (.notEqual, s)
  | '<' :: '=' :: s => some (.lessEqual, s)
  | '>' :: '=' :: s => some (.greaterEqual, s)
  | '<' :: s => if s.head? = some '<' then none else some (.less, s)
  | '>' :: s => if s.head? = some '>' then none else some (.greater, s)
  | '+' :: s => if s.head? = some '=' then none else some (.plus, s)
  | '-' :: s => if s.head? = some '=' ∨ s.head? = some '>' then none else some (.minus, s)
  | ':' :: s => if s.head? = some '=' then none else some (.colon, s)
  | _ => none

/-! ## Sources -/

/-- Takes the token off a text that starts with one at the given column. -/
def Lexeme.read (column : Nat) (c : Char) (s : List Char) : Except Error (Lexeme × List Char) :=
  match readMark (c :: s) with
  | some (m, rest) => .ok (.mark m, rest)
  | none =>
    if c = '"' ∨ c = '\'' then
      match readQuoted c s with
      | some (cs, rest) => .ok (.str (String.ofList cs), rest)
      | none => .error (.parse column .unterminatedText)
    else if isDigit c ∨ (c = '.' ∧ s.head?.any isDigit) then
      let n := readNumeral (c == '.') [c] s
      match n.lexeme? with
      | some k => .ok (k, n.rest)
      | none => .error (.parse column (.invalidNumber (String.ofList n.text)))
    else if startsWord c then
      .ok (wordLexeme (String.ofList (c :: s.takeWhile continuesWord)), s.dropWhile continuesWord)
    else
      match readOperator foreignOperators (c :: s) with
      | some r => .ok r
      | none => .error (.parse column (.unexpectedCharacter c))

theorem readMark_lt {s rest : List Char} {m : Mark} (h : readMark s = some (m, rest)) :
    rest.length < s.length := by
  unfold readMark at h
  split at h <;> (try split at h) <;>
    simp_all only [Option.some.injEq, Prod.mk.injEq, reduceCtorEq] <;>
    (obtain ⟨_, rfl⟩ := h; simp only [List.length_cons]; omega)

theorem readOperator_lt {operators : List String} {s rest : List Char} {k : Lexeme}
    (ho : ∀ o ∈ operators, o.toList ≠ []) (h : readOperator operators s = some (k, rest)) :
    rest.length < s.length := by
  induction operators with
  | nil => simp [readOperator] at h
  | cons o os ih =>
    simp only [readOperator] at h
    split at h
    · next r hr =>
      simp only [Option.some.injEq, Prod.mk.injEq] at h
      obtain ⟨_, rfl⟩ := h
      have := after?_length hr
      have := List.length_pos_iff.2 (ho o (by simp))
      omega
    · exact ih (fun o' h' => ho o' (by simp [h'])) h

theorem foreignOperators_ne_nil : ∀ o ∈ foreignOperators, o.toList ≠ [] := by decide

theorem dropWhile_le (p : Char → Bool) (s : List Char) : (s.dropWhile p).length ≤ s.length :=
  (List.dropWhile_sublist p).length_le

theorem Lexeme.read_lt {column : Nat} {c : Char} {s rest : List Char} {k : Lexeme}
    (h : Lexeme.read column c s = .ok (k, rest)) : rest.length < (c :: s).length := by
  unfold Lexeme.read at h
  split at h
  · next hm =>
    simp only [Except.ok.injEq, Prod.mk.injEq] at h
    obtain ⟨_, rfl⟩ := h
    exact readMark_lt hm
  · split at h
    · split at h
      · next hq =>
        simp only [Except.ok.injEq, Prod.mk.injEq] at h
        obtain ⟨_, rfl⟩ := h
        have := readQuoted_lt hq
        simp only [List.length_cons]; omega
      · simp at h
    · split at h
      · dsimp only at h
        split at h
        · simp only [Except.ok.injEq, Prod.mk.injEq] at h
          obtain ⟨_, rfl⟩ := h
          have := readNumeral_le (c == '.') [c] s
          simp only [List.length_cons]; omega
        · simp at h
      · split at h
        · simp only [Except.ok.injEq, Prod.mk.injEq] at h
          obtain ⟨_, rfl⟩ := h
          have := dropWhile_le continuesWord s
          simp only [List.length_cons]; omega
        · split at h
          · next r hr =>
            simp only [Except.ok.injEq] at h
            subst h
            exact readOperator_lt foreignOperators_ne_nil hr
          · simp at h

/-- The tokens of the rest of a source that is `total` characters long. -/
def lexFrom (total : Nat) (s : List Char) : Except Error (List Token) :=
  match _hs : s.dropWhile isBlank with
  | [] => .ok [⟨.stop, total⟩]
  | c :: r =>
    let column := total - (r.length + 1)
    match _h : Lexeme.read column c r with
    | .error e => .error e
    | .ok (k, rest) =>
      match lexFrom total rest with
      | .error e => .error e
      | .ok ts => .ok (⟨k, column⟩ :: ts)
termination_by s.length
decreasing_by
  have h1 := Lexeme.read_lt _h
  have h2 := dropWhile_le isBlank s
  rw [_hs] at h2
  exact Nat.lt_of_lt_of_le h1 h2

def lex (source : String) : Except Error (List Token) :=
  lexFrom source.toList.length source.toList

end Docket.Expression
