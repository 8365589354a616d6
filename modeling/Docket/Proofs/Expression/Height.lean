import Docket.Proofs.Expression.Accepted
import Mathlib.Data.List.Basic
import Mathlib.Data.Nat.Basic
import Mathlib.Order.MinMax

/-! # How high the trees are that are read

The levels of nesting bound the height of a tree up to its subscripts.  A level is worth two
expressions on a path (`Derives.height_le`): a sign and a negation take a level for one, and what
can be built inside a pair of parentheses without going deeper (a comparison, a conjunction, a
disjunction and a conditional) takes two levels for four.  A subscript takes no level, so a chain of
them is as high as it is long (`parse_chained`).

`subscripts` counts the subscripts on a path, and `parse_height` puts the height of a tree that was
read between this number and its sum with 131. -/

namespace Docket.Expression

open Text

/-! ### Subscripts on a path -/

mutual

/-- The greatest number of subscripts that are nested in each other, whatever is between them. -/
def subscripts : Expression → ℕ
  | .literal _ | .name _ _ | .call _ _ _ => 0
  | .subscript target _ => subscripts target + 1
  | .not e | .negative e | .positive e => subscripts e
  | .all es | .any es => subscriptsAll es
  | .compare first rest => max (subscripts first) (subscriptsRest rest)
  | .choose c t e => max (subscripts c) (max (subscripts t) (subscripts e))

/-- The greatest number of nested subscripts in one of several expressions. -/
def subscriptsAll : List Expression → ℕ
  | [] => 0
  | e :: es => max (subscripts e) (subscriptsAll es)

/-- The greatest number of nested subscripts in one of the later operands of a comparison. -/
def subscriptsRest : List (Relation × Expression) → ℕ
  | [] => 0
  | (_, e) :: es => max (subscripts e) (subscriptsRest es)

end

mutual

/-- Below its subscripts, a path has an expression that is none. -/
theorem subscripts_lt_height : ∀ e : Expression, e.subscripts < e.height
  | .literal _ | .name _ _ | .call _ _ _ => by simp only [subscripts, height, Nat.lt_one_iff]
  | .subscript target _ => Nat.succ_lt_succ (subscripts_lt_height target)
  | .not e | .negative e | .positive e => Nat.lt_succ_of_lt (subscripts_lt_height e)
  | .all es | .any es => Nat.lt_succ_of_le (subscriptsAll_le_height es)
  | .compare first rest => by
      have hfirst := subscripts_lt_height first
      have hrest := subscriptsRest_le_height rest
      simp only [subscripts, height]
      omega
  | .choose c t e => by
      have hc := subscripts_lt_height c
      have ht := subscripts_lt_height t
      have he := subscripts_lt_height e
      simp only [subscripts, height]
      omega

theorem subscriptsAll_le_height : ∀ es : List Expression, subscriptsAll es ≤ heightAll es
  | [] => Nat.le_refl 0
  | e :: es => max_le_max (subscripts_lt_height e).le (subscriptsAll_le_height es)

theorem subscriptsRest_le_height :
    ∀ es : List (Relation × Expression), subscriptsRest es ≤ heightRest es
  | [] => Nat.le_refl 0
  | (_, e) :: es => max_le_max (subscripts_lt_height e).le (subscriptsRest_le_height es)

end

section Chain

variable (e : Expression) (keys : List Json)

theorem height_foldl_subscript :
    (keys.foldl Expression.subscript e).height = e.height + keys.length := by
  induction keys generalizing e with
  | nil => rfl
  | cons key keys ih =>
      rw [List.foldl_cons, ih, height, List.length_cons]
      omega

theorem subscripts_foldl_subscript :
    (keys.foldl Expression.subscript e).subscripts = e.subscripts + keys.length := by
  induction keys generalizing e with
  | nil => rfl
  | cons key keys ih =>
      rw [List.foldl_cons, ih, subscripts, List.length_cons]
      omega

end Chain

/-! ### Phrases -/

def Phrase.height : (k : Phrase) → k.Tree → ℕ
  | disjuncts, es | conjuncts, es => heightAll es
  | comparisons, rs => heightRest rs
  | expr, e | disjunction, e | conjunction, e | negation, e | comparison, e | unary, e
  | operand, e | primary, e => Expression.height e

/-- The nested subscripts of what a phrase stands for. -/
def Phrase.subscripts : (k : Phrase) → k.Tree → ℕ
  | disjuncts, es | conjuncts, es => subscriptsAll es
  | comparisons, rs => subscriptsRest rs
  | expr, e | disjunction, e | conjunction, e | negation, e | comparison, e | unary, e
  | operand, e | primary, e => Expression.subscripts e

/-- How many expressions a path through a phrase may have that belong to no level. -/
def Phrase.slack : Phrase → ℕ
  | primary | operand | unary | comparisons => 1
  | comparison | negation | conjuncts => 2
  | conjunction | disjuncts | expr => 3
  | disjunction => 4

variable {k : Phrase} {ts : List Token} {e : k.Tree} {d : ℕ}

theorem height_joined_le (join : List Expression → Expression) (e : Expression)
    (es : List Expression) (hjoin : ∀ es, (join es).height = heightAll es + 1) :
    (joined join e es).height ≤ max e.height (heightAll es) + 1 := by
  unfold joined
  split
  · omega
  · rw [hjoin]
    rfl

theorem subscripts_joined (join : List Expression → Expression) (e : Expression)
    (es : List Expression) (hjoin : ∀ es, (join es).subscripts = subscriptsAll es) :
    (joined join e es).subscripts = max e.subscripts (subscriptsAll es) := by
  unfold joined
  split
  · next h =>
    rw [List.isEmpty_iff.mp h, subscriptsAll]
    exact (Nat.max_zero _).symm
  · exact hjoin _

theorem height_compared_le (e : Expression) (rs : List (Relation × Expression)) :
    (compared e rs).height ≤ max e.height (heightRest rs) + 1 := by
  unfold compared
  split
  · omega
  · exact le_rfl

theorem subscripts_compared (e : Expression) (rs : List (Relation × Expression)) :
    (compared e rs).subscripts = max e.subscripts (subscriptsRest rs) := by
  unfold compared
  split
  · next h =>
    rw [List.isEmpty_iff.mp h, subscriptsRest]
    exact (Nat.max_zero _).symm
  · rfl

/-- **A level is worth two expressions on a path**, subscripts apart. -/
theorem Derives.height_le (h : Derives k ts e d) :
    k.height e ≤ k.subscripts e + (2 * d + k.slack) := by
  induction h with
  | noDisjunct | noConjunct | noRelation => exact Nat.zero_le _
  | plain _ ih | affirmed _ ih | unsigned _ ih =>
      simp only [Phrase.height, Phrase.subscripts, Phrase.slack] at ih ⊢
      omega
  | conditional _ _ _ ih ih' ih'' =>
      simp only [Phrase.height, Phrase.subscripts, Phrase.slack, height, subscripts]
        at ih ih' ih'' ⊢
      omega
  | @disjunction _ _ e es _ _ _ _ ih ih' =>
      have hheight := height_joined_le .any e es fun _ => rfl
      have hsubscripts := subscripts_joined .any e es fun _ => rfl
      simp only [Phrase.height, Phrase.subscripts, Phrase.slack] at ih ih' ⊢
      omega
  | @conjunction _ _ e es _ _ _ _ ih ih' =>
      have hheight := height_joined_le .all e es fun _ => rfl
      have hsubscripts := subscripts_joined .all e es fun _ => rfl
      simp only [Phrase.height, Phrase.subscripts, Phrase.slack] at ih ih' ⊢
      omega
  | disjunct _ _ ih ih' | conjunct _ _ ih ih' =>
      simp only [Phrase.height, Phrase.subscripts, Phrase.slack, heightAll, subscriptsAll]
        at ih ih' ⊢
      omega
  | relation _ _ _ ih ih' =>
      simp only [Phrase.height, Phrase.subscripts, Phrase.slack, heightRest, subscriptsRest]
        at ih ih' ⊢
      omega
  | @comparison _ _ e rs _ _ _ _ ih ih' =>
      have hheight := height_compared_le e rs
      have hsubscripts := subscripts_compared e rs
      simp only [Phrase.height, Phrase.subscripts, Phrase.slack] at ih ih' ⊢
      omega
  | not _ ih | negative _ ih | positive _ ih =>
      simp only [Phrase.height, Phrase.subscripts, Phrase.slack, height, subscripts] at ih ⊢
      omega
  | @subscripted _ _ e keys _ _ _ ih =>
      simp only [Phrase.height, Phrase.subscripts, Phrase.slack, height_foldl_subscript,
        subscripts_foldl_subscript] at ih ⊢
      omega
  | literal | name | callNone | call =>
      simp only [Phrase.height, Phrase.subscripts, Phrase.slack, height, subscripts]
      omega
  | parens _ ih =>
      simp only [Phrase.height, Phrase.subscripts, Phrase.slack] at ih ⊢
      omega

/-! ### Opening brackets -/

/-- How many of the tokens are opening brackets. -/
def brackets (ts : List Token) : ℕ := ts.countP fun t => t.lexeme = .mark .openBracket

theorem Subscripts.length_le {ts : List Token} {keys : List Json} (h : Subscripts ts keys) :
    keys.length ≤ brackets ts := by
  induction h with
  | nil => exact Nat.zero_le _
  | cons _ _ ih =>
      simp only [brackets, List.countP_cons, List.length_cons] at ih ⊢
      simp only [decide_true, if_true]
      omega

theorem Derives.subscripts_le (h : Derives k ts e d) : k.subscripts e ≤ brackets ts := by
  induction h with
  | noDisjunct | noConjunct | noRelation | literal | name | callNone | call => exact Nat.zero_le _
  | plain _ ih | affirmed _ ih | unsigned _ ih => exact ih
  | conditional _ _ _ ih ih' ih'' =>
      simp only [Phrase.subscripts, brackets, List.countP_append, List.countP_cons, subscripts]
        at ih ih' ih'' ⊢
      omega
  | @disjunction _ _ e es _ _ _ _ ih ih' =>
      have hjoined := subscripts_joined .any e es fun _ => rfl
      simp only [Phrase.subscripts, brackets, List.countP_append] at ih ih' ⊢
      omega
  | @conjunction _ _ e es _ _ _ _ ih ih' =>
      have hjoined := subscripts_joined .all e es fun _ => rfl
      simp only [Phrase.subscripts, brackets, List.countP_append] at ih ih' ⊢
      omega
  | disjunct _ _ ih ih' | conjunct _ _ ih ih' =>
      simp only [Phrase.subscripts, brackets, List.cons_append, List.countP_append,
        List.countP_cons, subscriptsAll] at ih ih' ⊢
      omega
  | relation _ _ _ ih ih' =>
      simp only [Phrase.subscripts, brackets, List.countP_append, subscriptsRest] at ih ih' ⊢
      omega
  | @comparison _ _ e rs _ _ _ _ ih ih' =>
      have hcompared := subscripts_compared e rs
      simp only [Phrase.subscripts, brackets, List.countP_append] at ih ih' ⊢
      omega
  | not _ ih | negative _ ih | positive _ ih =>
      simp only [Phrase.subscripts, brackets, List.countP_cons, subscripts] at ih ⊢
      omega
  | subscripted _ hs ih =>
      have hkeys := hs.length_le
      simp only [Phrase.subscripts, brackets, List.countP_append, subscripts_foldl_subscript]
        at ih hkeys ⊢
      omega
  | parens _ ih =>
      simp only [Phrase.subscripts, brackets, List.cons_append, List.countP_append,
        List.countP_cons] at ih ⊢
      omega

/-! ### Chains of subscripts -/

variable {total : ℕ} {s rest : List Char}

theorem lexFrom_cons {c : Char} {k : Lexeme} {us : List Token} (hblank : isBlank c = false)
    (hread : ∀ column, Lexeme.read column c s = .ok (k, rest))
    (hrest : lexFrom total rest = .ok us) :
    ∃ column, lexFrom total (c :: s) = .ok (⟨k, column⟩ :: us) := by
  have hdrop : (c :: s).dropWhile isBlank = c :: s := List.dropWhile_cons_of_neg (by simp [hblank])
  refine ⟨total - (s.length + 1), ?_⟩
  rw [lexFrom_of_read hdrop (hread _), hrest]
  rfl

/-- The text of `n` subscripts. -/
def bracketed (n : ℕ) : List Char := (List.replicate n ['[', '0', ']']).flatten

/-- A text with `n` subscripts. -/
def chained (n : ℕ) : String := String.ofList (['\'', 'a', '\''] ++ bracketed n)

/-- The first character of a text, taken `n` times. -/
def tower (n : ℕ) : Expression :=
  (List.replicate n (.num (.int 0))).foldl .subscript (.literal (.str "a"))

theorem Lexeme.read_zero (column : ℕ) :
    Lexeme.read column '0' (']' :: s) = .ok (.int 0, ']' :: s) := by
  have hnumeral : readNumeral ('0' == '.') ['0'] (']' :: s) = ⟨['0'], false, ']' :: s⟩ := by
    unfold readNumeral
    rfl
  have hdigit : isDigit '0' := by decide
  have hmark : readMark ('0' :: ']' :: s) = none := rfl
  unfold Lexeme.read
  rw [hmark]
  dsimp only
  rw [if_neg (by decide), if_pos (.inl hdigit), hnumeral]
  rfl

theorem lexFrom_bracketed (total n : ℕ) : ∃ us,
    lexFrom total (bracketed n) = .ok (us ++ [⟨.stop, total⟩]) ∧
    Subscripts us (List.replicate n (.num (.int 0))) := by
  induction n with
  | zero =>
      refine ⟨[], ?_, .nil⟩
      rw [lexFrom]
      rfl
  | succ n ih =>
      obtain ⟨us, hlex, hus⟩ := ih
      obtain ⟨i, hclose⟩ := lexFrom_cons (c := ']') rfl (fun _ => rfl) hlex
      obtain ⟨j, hzero⟩ := lexFrom_cons (c := '0') rfl Lexeme.read_zero hclose
      obtain ⟨l, hopen⟩ := lexFrom_cons (c := '[') rfl (fun _ => rfl) hzero
      exact ⟨⟨_, l⟩ :: ⟨.int 0, j⟩ :: ⟨_, i⟩ :: us, hopen, .cons (.int 0) hus⟩

theorem Lexeme.read_text (column : ℕ) :
    Lexeme.read column '\'' ('a' :: '\'' :: s) = .ok (.str "a", s) := by
  have hend : readQuoted '\'' ('\'' :: s) = some ([], s) := by
    unfold readQuoted
    rfl
  have hquoted : readQuoted '\'' ('a' :: '\'' :: s) = some (['a'], s) := by
    unfold readQuoted
    rw [hend]
    rfl
  simp [Lexeme.read, readMark, hquoted]

theorem lex_chained (n : ℕ) : ∃ us i column, lex (chained n) =
      .ok (⟨.str "a", i⟩ :: us ++ [⟨.stop, column⟩]) ∧
    Subscripts us (List.replicate n (.num (.int 0))) := by
  obtain ⟨us, hlex, hus⟩ := lexFrom_bracketed (chained n).toList.length n
  obtain ⟨i, htext⟩ := lexFrom_cons (c := '\'') (s := 'a' :: '\'' :: bracketed n) rfl
    Lexeme.read_text hlex
  refine ⟨us, i, (chained n).toList.length, ?_, hus⟩
  have hlist : (chained n).toList = '\'' :: 'a' :: '\'' :: bracketed n := String.toList_ofList
  exact (congrArg (lexFrom _) hlist).trans htext

/-- **A chain of subscripts is read, however long it is.** -/
theorem parse_chained (n : ℕ) : parse (chained n) = .ok (tower n) := by
  obtain ⟨us, i, column, hlex, hus⟩ := lex_chained n
  have htext : Derives .primary [⟨.str "a", i⟩] (.literal (.str "a")) 0 := .literal (.str "a")
  have hunary : Derives .unary (⟨.str "a", i⟩ :: us) (tower n) 0 :=
    .unsigned (.subscripted htext hus)
  have hexpr := hunary.expr
  refine parse_ok_iff.mpr ⟨_, column, 1, hlex, hexpr, fun t ht hfloat => ?_, by decide⟩
  have hterminal := hexpr.terminals t ht
  rw [hfloat] at hterminal
  cases hterminal

theorem height_tower (n : ℕ) : (tower n).height = n + 1 := by
  rw [tower, height_foldl_subscript, List.length_replicate, height, Nat.add_comm]

theorem subscripts_tower (n : ℕ) : (tower n).subscripts = n := by
  rw [tower, subscripts_foldl_subscript, List.length_replicate, subscripts, Nat.zero_add]

theorem eval_tower (vars : Variables) (functions : Functions) (n : ℕ) :
    (tower n).eval vars functions = .ok (.str "a") := by
  induction n with
  | zero => rfl
  | succ n ih =>
      have hsucc : tower (n + 1) = .subscript (tower n) (.num (.int 0)) := by
        unfold tower
        rw [List.replicate_succ', List.foldl_concat]
      rw [hsucc, eval, ih]
      rfl

/-! ### The height of what is read -/

/-- **Only subscripts make trees high.**  A path in a tree that was read has at most 131 expressions
that are no subscripts, and each of the subscripts on it was written with a bracket.  So a tree has
a height of at most 512 unless more than 381 subscripts are nested in it, and it is higher if 512
are. -/
theorem parse_height {source : String} {e : Expression} (h : parse source = .ok e) :
    e.height ≤ e.subscripts + 131 ∧ e.subscripts < e.height ∧
    (∀ ts, lex source = .ok ts → e.subscripts ≤ brackets ts) ∧
    (e.subscripts ≤ 381 → e.height ≤ 512) ∧ (512 ≤ e.subscripts → 512 < e.height) := by
  obtain ⟨ts, column, depth, hlex, hts, -, hdepth⟩ := parse_ok_iff.mp h
  have hbelow := subscripts_lt_height e
  have habove : e.height ≤ e.subscripts + (2 * depth + 3) := hts.height_le
  refine ⟨by omega, hbelow, fun us hus => ?_, by omega, by omega⟩
  cases hlex.symm.trans hus
  calc e.subscripts ≤ brackets ts := hts.subscripts_le
    _ ≤ brackets (ts ++ [⟨.stop, column⟩]) := by
      unfold brackets
      rw [List.countP_append]
      exact Nat.le_add_right _ _

namespace Sample

/-- The comparison `-x[0] < 3`. -/
def below : Expression :=
  .compare (.negative (.subscript (.name "x" 1) (.num (.int 0))))
    [(.less, .literal (.num (.int 3)))]

/-- The tokens of the comparison. -/
def belowTokens : List Token :=
  [⟨.mark .minus, 0⟩, ⟨.name "x", 1⟩, ⟨.mark .openBracket, 2⟩, ⟨.int 0, 3⟩,
    ⟨.mark .closeBracket, 4⟩, ⟨.mark .less, 6⟩, ⟨.int 3, 8⟩, ⟨.stop, 9⟩]

end Sample

/-- One bracket makes one subscript, and the tree is low; 512 brackets in a row make a tree that is
higher than 512. -/
theorem parse_height_sample :
    parse "-x[0] < 3" = .ok Sample.below ∧ lex "-x[0] < 3" = .ok Sample.belowTokens ∧
    Sample.below.subscripts ≤ brackets Sample.belowTokens ∧ Sample.below.height ≤ 512 ∧
    parse (chained 512) = .ok (tower 512) ∧ 512 < (tower 512).height := by
  have hlex : lex "-x[0] < 3" = .ok Sample.belowTokens := by decide +kernel
  have hparse : parse "-x[0] < 3" = .ok Sample.below := by
    rw [parse, hlex]
    rfl
  obtain ⟨-, -, hbrackets, hlow, -⟩ := parse_height hparse
  obtain ⟨-, -, -, -, hhigh⟩ := parse_height (parse_chained 512)
  exact ⟨hparse, hlex, hbrackets _ hlex, hlow (by decide), parse_chained 512,
    hhigh (by rw [subscripts_tower])⟩

/-- **A workflow can make a tree as high as it likes.**  The first character of a text is a text
again, so it has a first character, and so on 512 times.  The tree is accepted, and evaluation goes
down all 513 expressions of it. -/
theorem parse_high :
    ¬(∀ source e, parse source = .ok e → e.height ≤ 512) ∧
    parse (chained 512) = .ok (tower 512) ∧ (tower 512).height = 513 ∧
    ∀ vars functions, (tower 512).eval vars functions = .ok (.str "a") := by
  refine ⟨fun h => ?_, parse_chained 512, height_tower 512, fun vars functions =>
    eval_tower vars functions 512⟩
  have hheight := h _ _ (parse_chained 512)
  rw [height_tower] at hheight
  omega

end Docket.Expression
