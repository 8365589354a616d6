import Docket.Expression.Parser
import Mathlib.Data.Nat.Notation

/-! # The grammar of expressions

`Derives` is the grammar by itself, apart from how it is read.  It says which tokens make up a
phrase, for which tree the phrase stands, and how many levels of nesting are open in it at once.

    expr       := or [ "if" or "else" expr ]
    or         := and { "or" and }
    and        := not { "and" not }
    not        := "not" not | comparison
    comparison := unary { relation unary }
    unary      := ("-" | "+") unary | postfix
    postfix    := primary { "[" literal "]" }
    primary    := literal | name | name "(" [ argument { "," argument } ] ")" | "(" expr ")"

* A repetition is a phrase too: `disjuncts`, `conjuncts` and `comparisons` stand for what is between
  the braces, with a list as the tree.  A chain of one operand is the operand itself (`joined`).
* `Derives.first` says with which tokens a phrase can begin.
* `Derives.terminals` says that a phrase is made of the tokens of the language only: there is no
  reserved word in it, no colon, no operator of another language and no number beyond the format. -/

namespace Docket

open Expression (Lexeme)

/-- The tokens of a comparison. -/
def Relation.lexemes : Relation → List Lexeme
  | .equal => [.mark .equal]
  | .notEqual => [.mark .notEqual]
  | .less => [.mark .less]
  | .lessEqual => [.mark .lessEqual]
  | .greater => [.mark .greater]
  | .greaterEqual => [.mark .greaterEqual]
  | .member => [.keyword .member]
  | .notMember => [.keyword .negation, .keyword .member]
  | .identical => [.keyword .identity]
  | .notIdentical => [.keyword .identity, .keyword .negation]

namespace Expression

/-! ### Constants, subscripts and arguments -/

/-- The value of a literal.  A number beyond the format has none. -/
inductive Constant : Lexeme → Json → Prop
  | int (i : Int) : Constant (.int i) (.num (.int i))
  | float (x : Double) : Constant (.float (some x)) (.num (.float x))
  | str (s : String) : Constant (.str s) (.str s)
  | yes : Constant (.keyword .true) (.bool true)
  | no : Constant (.keyword .false) (.bool false)
  | nothing : Constant (.keyword .none) .null

/-- The subscripts after a primary expression, with their keys. -/
inductive Subscripts : List Token → List Json → Prop
  | nil : Subscripts [] []
  | cons {i j : ℕ} {t : Token} {key : Json} {ts : List Token} {keys : List Json} :
      Constant t.lexeme key → Subscripts ts keys →
      Subscripts (⟨.mark .openBracket, i⟩ :: t :: ⟨.mark .closeBracket, j⟩ :: ts) (key :: keys)

/-- An argument is a name or a literal. -/
inductive Plain : Lexeme → Argument → Prop
  | name (n : String) : Plain (.name n) (.name n)
  | literal {k : Lexeme} {v : Json} : Constant k v → Plain k (.literal v)

/-- The arguments between the parentheses of a call, if there are any. -/
inductive Arguments : List Token → List Argument → Prop
  | last {t : Token} {a : Argument} : Plain t.lexeme a → Arguments [t] [a]
  | more {i : ℕ} {t : Token} {a : Argument} {ts : List Token} {more : List Argument} :
      Plain t.lexeme a → Arguments ts more →
      Arguments (t :: ⟨.mark .comma, i⟩ :: ts) (a :: more)

/-! ### Phrases -/

/-- The phrases of the grammar and its repetitions. -/
inductive Phrase where
  | expr
  | disjunction
  | disjuncts
  | conjunction
  | conjuncts
  | negation
  | comparison
  | comparisons
  | unary
  | operand
  | primary

/-- What a phrase stands for. -/
abbrev Phrase.Tree : Phrase → Type
  | disjuncts | conjuncts => List Expression
  | comparisons => List (Relation × Expression)
  | _ => Expression

/-- A chain of operands is flat, and one operand makes no chain. -/
def joined (join : List Expression → Expression) (first : Expression) (more : List Expression) :
    Expression :=
  if more.isEmpty then first else join (first :: more)

/-- A chain of comparisons is flat, and one operand makes no comparison. -/
def compared (first : Expression) (more : List (Relation × Expression)) : Expression :=
  if more.isEmpty then first else .compare first more

/-- The tokens are a phrase that stands for a tree, and the number is that of the levels that are
open at once where the phrase is deepest: one for every `expr`, and one more for every open
parenthesis, every pending `not` and every pending sign. -/
inductive Derives : (k : Phrase) → List Token → k.Tree → ℕ → Prop
  | plain {ts : List Token} {e : Expression} {d : ℕ} :
      Derives .disjunction ts e d → Derives .expr ts e (d + 1)
  | conditional {ts us vs : List Token} {value condition otherwise : Expression} {a b c i j : ℕ} :
      Derives .disjunction ts value a → Derives .disjunction us condition b →
      Derives .expr vs otherwise c →
      Derives .expr (ts ++ ⟨.keyword .condition, i⟩ :: us ++ ⟨.keyword .alternative, j⟩ :: vs)
        (Expression.choose condition value otherwise) (max a (max b c) + 1)
  | disjunction {ts us : List Token} {e : Expression} {es : List Expression} {a b : ℕ} :
      Derives .conjunction ts e a → Derives .disjuncts us es b →
      Derives .disjunction (ts ++ us) (joined .any e es) (max a b)
  | noDisjunct : Derives .disjuncts [] ([] : List Expression) 0
  | disjunct {ts us : List Token} {e : Expression} {es : List Expression} {a b i : ℕ} :
      Derives .conjunction ts e a → Derives .disjuncts us es b →
      Derives .disjuncts (⟨.keyword .disj, i⟩ :: ts ++ us) (e :: es) (max a b)
  | conjunction {ts us : List Token} {e : Expression} {es : List Expression} {a b : ℕ} :
      Derives .negation ts e a → Derives .conjuncts us es b →
      Derives .conjunction (ts ++ us) (joined .all e es) (max a b)
  | noConjunct : Derives .conjuncts [] ([] : List Expression) 0
  | conjunct {ts us : List Token} {e : Expression} {es : List Expression} {a b i : ℕ} :
      Derives .negation ts e a → Derives .conjuncts us es b →
      Derives .conjuncts (⟨.keyword .conj, i⟩ :: ts ++ us) (e :: es) (max a b)
  | not {ts : List Token} {e : Expression} {d i : ℕ} :
      Derives .negation ts e d →
      Derives .negation (⟨.keyword .negation, i⟩ :: ts) (Expression.not e) (d + 1)
  | affirmed {ts : List Token} {e : Expression} {d : ℕ} :
      Derives .comparison ts e d → Derives .negation ts e d
  | comparison {ts us : List Token} {e : Expression} {rs : List (Relation × Expression)} {a b : ℕ} :
      Derives .unary ts e a → Derives .comparisons us rs b →
      Derives .comparison (ts ++ us) (compared e rs) (max a b)
  | noRelation : Derives .comparisons [] ([] : List (Relation × Expression)) 0
  | relation {ts us vs : List Token} {r : Relation} {e : Expression}
      {rs : List (Relation × Expression)} {a b : ℕ} :
      ts.map Token.lexeme = r.lexemes → Derives .unary us e a → Derives .comparisons vs rs b →
      Derives .comparisons (ts ++ us ++ vs) ((r, e) :: rs) (max a b)
  | negative {ts : List Token} {e : Expression} {d i : ℕ} :
      Derives .unary ts e d →
      Derives .unary (⟨.mark .minus, i⟩ :: ts) (Expression.negative e) (d + 1)
  | positive {ts : List Token} {e : Expression} {d i : ℕ} :
      Derives .unary ts e d →
      Derives .unary (⟨.mark .plus, i⟩ :: ts) (Expression.positive e) (d + 1)
  | unsigned {ts : List Token} {e : Expression} {d : ℕ} :
      Derives .operand ts e d → Derives .unary ts e d
  | subscripted {ts us : List Token} {e : Expression} {keys : List Json} {d : ℕ} :
      Derives .primary ts e d → Subscripts us keys →
      Derives .operand (ts ++ us) (keys.foldl Expression.subscript e) d
  | literal {t : Token} {v : Json} :
      Constant t.lexeme v → Derives .primary [t] (Expression.literal v) 0
  | name (n : String) (i : ℕ) : Derives .primary [⟨.name n, i⟩] (Expression.name n i) 0
  | callNone (n : String) (i : ℕ) {j l : ℕ} :
      Derives .primary [⟨.name n, i⟩, ⟨.mark .openParen, j⟩, ⟨.mark .closeParen, l⟩]
        (Expression.call n [] i) 0
  | call (n : String) (i : ℕ) {j l : ℕ} {ts : List Token} {arguments : List Argument} :
      Arguments ts arguments →
      Derives .primary (⟨.name n, i⟩ :: ⟨.mark .openParen, j⟩ :: ts ++ [⟨.mark .closeParen, l⟩])
        (Expression.call n arguments i) 0
  | parens {ts : List Token} {e : Expression} {d i j : ℕ} :
      Derives .expr ts e d →
      Derives .primary (⟨.mark .openParen, i⟩ :: ts ++ [⟨.mark .closeParen, j⟩]) e (d + 1)

variable {k : Phrase} {ts : List Token} {e : k.Tree} {d : ℕ}

theorem literal?_eq_some {k : Lexeme} {v : Json} : k.literal? = some v ↔ Constant k v := by
  constructor
  · intro h
    unfold Lexeme.literal? at h
    split at h <;> cases h <;> constructor
  · rintro (_ | _) <;> rfl

/-! ### The first token -/

/-- Whether a token may begin an operand without a sign. -/
def Lexeme.opens : Lexeme → Bool
  | .name _ | .mark .openParen => true
  | k => k.literal?.isSome

/-- Whether a token is a sign. -/
def Lexeme.isSign : Lexeme → Bool
  | .mark .minus | .mark .plus => true
  | _ => false

/-- Whether a token may begin a phrase that is no repetition. -/
def Phrase.begins : Phrase → Lexeme → Bool
  | operand, k | primary, k => k.opens
  | unary, k => k.opens || k.isSign
  | _, k => k.opens || k.isSign || k = .keyword .negation

/-- Whether a phrase is a repetition, which may be empty. -/
def Phrase.repeats : Phrase → Bool
  | disjuncts | conjuncts | comparisons => true
  | _ => false

theorem Constant.opens {k : Lexeme} {v : Json} (h : Constant k v) : k.opens = true := by
  cases h <;> rfl

/-- **A phrase that is no repetition begins with one of its tokens.** -/
theorem Derives.first (h : Derives k ts e d) (hk : k.repeats = false) :
    ∃ t us, ts = t :: us ∧ k.begins t.lexeme = true := by
  induction h with
  | noDisjunct | noConjunct | noRelation | disjunct | conjunct | relation => cases hk
  | plain _ ih | affirmed _ ih => exact ih rfl
  | conditional _ _ _ ih | disjunction _ _ ih | conjunction _ _ ih =>
      obtain ⟨t, us, rfl, hbegins⟩ := ih rfl
      exact ⟨t, _, rfl, hbegins⟩
  | comparison _ _ ih =>
      obtain ⟨t, us, rfl, hbegins⟩ := ih rfl
      exact ⟨t, _, rfl, Bool.or_eq_true_iff.mpr (Or.inl hbegins)⟩
  | unsigned _ ih =>
      obtain ⟨t, us, rfl, hbegins⟩ := ih rfl
      exact ⟨t, us, rfl, Bool.or_eq_true_iff.mpr (Or.inl hbegins)⟩
  | subscripted _ _ ih =>
      obtain ⟨t, us, rfl, hbegins⟩ := ih rfl
      exact ⟨t, _, rfl, hbegins⟩
  | literal h => exact ⟨_, _, rfl, h.opens⟩
  | not | negative | positive | name | callNone | call | parens => exact ⟨_, _, rfl, rfl⟩

/-! ### The tokens of the language -/

/-- Whether a token belongs to other languages: a reserved word, a colon or an operator. -/
def Lexeme.isForeign : Lexeme → Bool
  | .reserved _ | .operator _ | .mark .colon => true
  | _ => false

/-- Whether a token may stand in a phrase. -/
def Lexeme.isTerminal : Lexeme → Bool
  | .stop | .float none => false
  | k => !k.isForeign

theorem Lexeme.isForeign_of_isTerminal {k : Lexeme} (h : k.isTerminal = true) :
    k.isForeign = false := by
  unfold isTerminal at h
  split at h
  · cases h
  · cases h
  · simpa using h

theorem Lexeme.isTerminal_of_opens {k : Lexeme} (h : k.opens = true) : k.isTerminal = true := by
  unfold opens at h
  split at h
  · rfl
  · rfl
  · unfold literal? at h
    split at h <;> first | rfl | cases h

theorem Plain.isTerminal {k : Lexeme} {a : Argument} (h : Plain k a) : k.isTerminal = true := by
  cases h with
  | name => rfl
  | literal h => exact Lexeme.isTerminal_of_opens h.opens

theorem Subscripts.terminals {ts : List Token} {keys : List Json} (h : Subscripts ts keys) :
    ∀ t ∈ ts, t.lexeme.isTerminal = true := by
  induction h with
  | nil => simp
  | cons hkey _ ih =>
      have ht := Lexeme.isTerminal_of_opens hkey.opens
      simp only [List.forall_mem_cons]
      exact ⟨rfl, ht, rfl, ih⟩

theorem Arguments.terminals {ts : List Token} {arguments : List Argument}
    (h : Arguments ts arguments) : ∀ t ∈ ts, t.lexeme.isTerminal = true := by
  induction h with
  | last h => simpa using h.isTerminal
  | more h _ ih =>
      simp only [List.forall_mem_cons]
      exact ⟨h.isTerminal, rfl, ih⟩

theorem Relation.terminals {ts : List Token} {r : Relation}
    (h : ts.map Token.lexeme = r.lexemes) : ∀ t ∈ ts, t.lexeme.isTerminal = true := by
  have hall : ∀ x ∈ r.lexemes, x.isTerminal = true := by cases r <;> decide
  intro t ht
  exact hall _ (h ▸ List.mem_map_of_mem ht)

/-- **A phrase is made of tokens of the language.** -/
theorem Derives.terminals (h : Derives k ts e d) : ∀ t ∈ ts, t.lexeme.isTerminal = true := by
  induction h with
  | noDisjunct | noConjunct | noRelation => simp
  | plain _ ih | affirmed _ ih | unsigned _ ih => exact ih
  | conditional _ _ _ ih ih' ih'' =>
      simp only [List.forall_mem_append, List.forall_mem_cons]
      exact ⟨⟨ih, rfl, ih'⟩, rfl, ih''⟩
  | disjunction _ _ ih ih' | conjunction _ _ ih ih' | comparison _ _ ih ih' =>
      exact List.forall_mem_append.mpr ⟨ih, ih'⟩
  | disjunct _ _ ih ih' | conjunct _ _ ih ih' =>
      simp only [List.forall_mem_append, List.forall_mem_cons]
      exact ⟨⟨rfl, ih⟩, ih'⟩
  | relation hr _ _ ih ih' =>
      simp only [List.forall_mem_append]
      exact ⟨⟨Relation.terminals hr, ih⟩, ih'⟩
  | not _ ih | negative _ ih | positive _ ih => exact List.forall_mem_cons.mpr ⟨rfl, ih⟩
  | subscripted _ hs ih => exact List.forall_mem_append.mpr ⟨ih, hs.terminals⟩
  | literal h => simpa using Lexeme.isTerminal_of_opens h.opens
  | name | callNone => simp [Lexeme.isTerminal, Lexeme.isForeign]
  | call _ _ ha =>
      simp only [List.forall_mem_append, List.forall_mem_cons]
      exact ⟨⟨rfl, rfl, ha.terminals⟩, rfl, by simp⟩
  | parens _ ih =>
      simp only [List.forall_mem_append, List.forall_mem_cons]
      exact ⟨⟨rfl, ih⟩, rfl, by simp⟩

theorem Derives.expr {ts : List Token} {e : Expression} {d : ℕ} (h : Derives .unary ts e d) :
    Derives .expr ts e (d + 1) := by
  have hnegation : Derives .negation (ts ++ []) e (max d 0) :=
    .affirmed (.comparison h .noRelation)
  have hdisjunction : Derives .disjunction (ts ++ [] ++ [] ++ []) e (max (max (max d 0) 0) 0) :=
    .disjunction (.conjunction hnegation .noConjunct) .noDisjunct
  simpa using hdisjunction.plain

end Expression
end Docket
