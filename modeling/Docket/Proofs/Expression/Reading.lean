import Docket.Proofs.Expression.Grammar
import Docket.Proofs.Expression.Mention

/-! # Readers take what the grammar derives

A reader takes tokens off the front of a list.  `Takes` says of it which phrases it takes, within
how many levels of nesting, and with what it must not be followed; a reader takes every such phrase
and nothing else.  The tokens that must not follow are those that would go on with the phrase and
those that are refused after it: `EndsOperand`, `EndsUnary` and so on, each with more tokens than the
one before.

There is one lemma for every reader, from those it is made of.  The loops are recursions on the
tokens, and their lemmas inductions on the bound, which never falls short of the tokens that are
left.  The rest is a recursion on the levels, and `level_reads` is the induction. -/

namespace Docket.Expression

variable {source : List Char} {left : ℕ} {ts rest : List Token} {e : Expression}

/-- The reader takes exactly the phrases in `P` with at most `left` levels, where what follows is
`closed`. -/
def Takes {α : Type} (P : List Token → α → ℕ → Prop) (closed : List Token → Prop) (left : ℕ)
    (reader : Reader α) : Prop :=
  ∀ ts a rest, reader ts = .ok (a, rest) ↔
    ∃ us d, ts = us ++ rest ∧ P us a d ∧ d ≤ left ∧ closed rest

/-! ### What may follow -/

/-- No call, no subscript and no attribute follows. -/
def EndsOperand (ts : List Token) : Prop :=
  peek ts ≠ .mark .openParen ∧ peek ts ≠ .mark .openBracket ∧ peek ts ≠ .operator "."

/-- And no arithmetic. -/
def EndsUnary (ts : List Token) : Prop := EndsOperand ts ∧ (peek ts).isArithmetic = false

/-- And no comparison. -/
def EndsComparison (ts : List Token) : Prop := EndsUnary ts ∧ readRelation ts = none

/-- And no further operand of a conjunction. -/
def EndsConjunction (ts : List Token) : Prop := EndsComparison ts ∧ peek ts ≠ .keyword .conj

/-- And no further operand of a disjunction. -/
def EndsDisjunction (ts : List Token) : Prop := EndsConjunction ts ∧ peek ts ≠ .keyword .disj

/-- And no condition and no assignment. -/
def EndsExpr (ts : List Token) : Prop :=
  EndsDisjunction ts ∧ peek ts ≠ .keyword .condition ∧ peek ts ≠ .operator "=" ∧
    peek ts ≠ .operator ":="

theorem exists_of_peek {k : Lexeme} (h : peek ts = k) (hk : k ≠ .stop) :
    ∃ i us, ts = ⟨k, i⟩ :: us := by
  cases ts with
  | nil => exact absurd h.symm hk
  | cons t us => exact ⟨t.column, us, by rw [← h]; rfl⟩

theorem endsComparison_keyword {word : Keyword} {i : ℕ}
    (h : word ∈ [.conj, .disj, .condition, .alternative]) :
    EndsComparison (⟨.keyword word, i⟩ :: ts) := by
  simp only [List.mem_cons, List.not_mem_nil, or_false] at h
  rcases h with rfl | rfl | rfl | rfl <;>
    exact ⟨⟨⟨by simp [peek], by simp [peek], by simp [peek]⟩, rfl⟩, rfl⟩

theorem endsExpr_of_peek (h : peek ts = .stop ∨ peek ts = .mark .closeParen) : EndsExpr ts := by
  have hrelation : readRelation ts = none := by
    unfold readRelation
    split
    all_goals first | rfl | (rcases h with h | h <;> cases h)
  rcases h with h | h
  all_goals
    refine ⟨⟨⟨⟨⟨⟨?_, ?_, ?_⟩, ?_⟩, hrelation⟩, ?_⟩, ?_⟩, ?_, ?_, ?_⟩ <;> rw [h] <;>
      simp [Lexeme.isArithmetic]

theorem endsDisjunction_keyword {word : Keyword} {i : ℕ} (h : word ∈ [.condition, .alternative]) :
    EndsDisjunction (⟨.keyword word, i⟩ :: ts) := by
  simp only [List.mem_cons, List.not_mem_nil, or_false] at h
  rcases h with rfl | rfl <;>
    exact ⟨⟨endsComparison_keyword (by simp), by simp [peek]⟩, by simp [peek]⟩

/-! ### Chains -/

section Chains

variable {word : Keyword} {P : List Token → Expression → ℕ → Prop}
  {S : List Token → List Expression → ℕ → Prop} {closed : List Token → Prop}
  {item : Reader Expression}

/-- `S` repeats `P`, each time after a word. -/
structure Iterates (word : Keyword) (P : List Token → Expression → ℕ → Prop)
    (S : List Token → List Expression → ℕ → Prop) : Prop where
  nil : S [] [] 0
  cons : ∀ {i : ℕ} {ts us : List Token} {e : Expression} {es : List Expression} {a b : ℕ},
    P ts e a → S us es b → S (⟨.keyword word, i⟩ :: ts ++ us) (e :: es) (max a b)
  inv : ∀ {us : List Token} {es : List Expression} {d : ℕ}, S us es d →
    (us = [] ∧ es = []) ∨ ∃ i ts vs e more a b, us = ⟨.keyword word, i⟩ :: ts ++ vs ∧
      es = e :: more ∧ d = max a b ∧ P ts e a ∧ S vs more b

/-- What follows one item of a repetition is the next, or what follows the repetition. -/
theorem Iterates.closed_append {us : List Token} {es : List Expression} {d : ℕ}
    (hS : Iterates word P S) (hword : ∀ i ts, closed (⟨.keyword word, i⟩ :: ts)) (h : S us es d)
    (hrest : closed rest) : closed (us ++ rest) := by
  rcases hS.inv h with ⟨rfl, _⟩ | ⟨i, ts, vs, _, _, _, _, rfl, _⟩
  · exact hrest
  · exact hword i _

theorem readSeparated_ok_iff_of_ne (hS : Iterates word P S) {fuel : ℕ} {es : List Expression}
    (hts : closed ts) (hpeek : peek ts ≠ .keyword word) :
    readSeparated (.keyword word) item fuel ts = .ok (es, rest) ↔
      ∃ us d, ts = us ++ rest ∧ S us es d ∧ d ≤ left ∧ closed rest ∧ peek rest ≠ .keyword word := by
  have hstop : readSeparated (.keyword word) item fuel ts = .ok ([], ts) := by
    cases fuel with
    | zero => rfl
    | succ fuel =>
        cases ts with
        | nil => rfl
        | cons t ts => exact if_neg hpeek
  rw [hstop]
  constructor
  · intro h
    cases h
    exact ⟨[], 0, rfl, hS.nil, Nat.zero_le _, hts, hpeek⟩
  · rintro ⟨us, d, rfl, hus, -, -, -⟩
    rcases hS.inv hus with ⟨rfl, rfl⟩ | ⟨i, ts, vs, _, _, _, _, rfl, _⟩
    · rfl
    · exact absurd rfl hpeek

theorem readSeparated_succ {fuel : ℕ} {t : Token} (h : t.lexeme = .keyword word) :
    readSeparated (.keyword word) item (fuel + 1) (t :: ts) = (do
      let (x, rest) ← item ts
      let (xs, rest) ← readSeparated (.keyword word) item fuel rest
      return (x :: xs, rest)) :=
  if_pos h

/-- **The loop over the operands of a chain takes a repetition.** -/
theorem readSeparated_ok_iff (hitem : Takes P closed left item) (hS : Iterates word P S)
    (hword : ∀ i ts, closed (⟨.keyword word, i⟩ :: ts)) {fuel : ℕ} {es : List Expression}
    (hfuel : ts.length ≤ fuel) (hts : closed ts) :
    readSeparated (.keyword word) item fuel ts = .ok (es, rest) ↔
      ∃ us d, ts = us ++ rest ∧ S us es d ∧ d ≤ left ∧ closed rest ∧ peek rest ≠ .keyword word := by
  induction fuel generalizing ts es with
  | zero =>
      have hnil : ts = [] := List.eq_nil_of_length_eq_zero (Nat.le_zero.mp hfuel)
      refine readSeparated_ok_iff_of_ne hS hts ?_
      rw [hnil]
      simp [peek]
  | succ fuel ih =>
      cases ts with
      | nil => exact readSeparated_ok_iff_of_ne hS hts (by simp [peek])
      | cons t ts =>
          by_cases hpeek : t.lexeme = .keyword word
          · rw [readSeparated_succ hpeek, bind_eq_ok]
            constructor
            · rintro ⟨⟨x, us⟩, hx, h⟩
              obtain ⟨⟨xs, vs⟩, hxs, h⟩ := bind_eq_ok.mp h
              cases h
              obtain ⟨ws, a, rfl, hP, ha, hus⟩ := (hitem _ _ _).mp hx
              have hlength : us.length ≤ fuel := by
                simp only [List.length_cons, List.length_append] at hfuel
                omega
              obtain ⟨vs, b, rfl, hvs, hb, hclosed⟩ := (ih hlength hus).mp hxs
              obtain ⟨lexeme, i⟩ := t
              cases hpeek
              exact ⟨⟨.keyword word, i⟩ :: ws ++ vs, max a b, by simp, hS.cons hP hvs,
                Nat.max_le.mpr ⟨ha, hb⟩, hclosed⟩
            · rintro ⟨us, d, hus, h, hd, hrest, hword'⟩
              rcases hS.inv h with ⟨rfl, rfl⟩ | ⟨i, ws, vs, e, more, a, b, rfl, rfl, rfl, hP, hvs⟩
              · rw [List.nil_append] at hus
                rw [← hus] at hword'
                exact absurd hpeek hword'
              · simp only [List.cons_append, List.append_assoc, List.cons.injEq] at hus
                obtain ⟨rfl, rfl⟩ := hus
                obtain ⟨ha, hb⟩ := Nat.max_le.mp hd
                have hclosed := hS.closed_append hword hvs hrest
                have hlength : (vs ++ rest).length ≤ fuel := by
                  simp only [List.length_cons, List.length_append] at hfuel ⊢
                  omega
                refine ⟨(e, vs ++ rest), (hitem _ _ _).mpr ⟨ws, a, rfl, hP, ha, hclosed⟩, ?_⟩
                rw [bind_eq_ok]
                exact ⟨(more, rest), (ih hlength hclosed).mpr
                  ⟨vs, b, rfl, hvs, hb, hrest, hword'⟩, rfl⟩
          · exact readSeparated_ok_iff_of_ne hS hts hpeek

/-- **A chain is an operand with a repetition after it.** -/
theorem takes_readChain {join : List Expression → Expression}
    {C : List Token → Expression → ℕ → Prop} (hitem : Takes P closed left item)
    (hS : Iterates word P S) (hword : ∀ i ts, closed (⟨.keyword word, i⟩ :: ts))
    (hC : ∀ us e d, C us e d ↔ ∃ ts vs first more a b, us = ts ++ vs ∧ e = joined join first more ∧
      d = max a b ∧ P ts first a ∧ S vs more b) :
    Takes C (fun rest => closed rest ∧ peek rest ≠ .keyword word) left
      (readChain join (.keyword word) item) := by
  intro ts e rest
  unfold readChain
  rw [bind_eq_ok]
  constructor
  · rintro ⟨⟨first, us⟩, hfirst, h⟩
    obtain ⟨⟨more, vs⟩, hmore, h⟩ := bind_eq_ok.mp h
    cases h
    obtain ⟨ts, a, rfl, hP, ha, hus⟩ := (hitem _ _ _).mp hfirst
    obtain ⟨vs, b, rfl, hvs, hb, hclosed⟩ :=
      (readSeparated_ok_iff hitem hS hword (Nat.le_refl _) hus).mp hmore
    refine ⟨ts ++ vs, max a b, (List.append_assoc _ _ _).symm, ?_, Nat.max_le.mpr ⟨ha, hb⟩, hclosed⟩
    exact (hC _ _ _).mpr ⟨ts, vs, first, more, a, b, rfl, rfl, rfl, hP, hvs⟩
  · rintro ⟨us, d, rfl, h, hd, hclosed⟩
    obtain ⟨ts, vs, first, more, a, b, rfl, rfl, rfl, hP, hvs⟩ := (hC _ _ _).mp h
    obtain ⟨ha, hb⟩ := Nat.max_le.mp hd
    have hvs' := hS.closed_append hword hvs hclosed.1
    refine ⟨(first, vs ++ rest), (hitem _ _ _).mpr ⟨ts, a, ?_, hP, ha, hvs'⟩, ?_⟩
    · exact List.append_assoc _ _ _
    · rw [bind_eq_ok]
      exact ⟨(more, rest), (readSeparated_ok_iff hitem hS hword (Nat.le_refl _) hvs').mpr
        ⟨vs, b, rfl, hvs, hb, hclosed⟩, rfl⟩

end Chains

theorem iterates_conjuncts : Iterates .conj (Derives .negation) (Derives .conjuncts) where
  nil := .noConjunct
  cons := .conjunct
  inv h := by
    cases h with
    | noConjunct => exact Or.inl ⟨rfl, rfl⟩
    | conjunct h hs => exact Or.inr ⟨_, _, _, _, _, _, _, rfl, rfl, rfl, h, hs⟩

theorem iterates_disjuncts : Iterates .disj (Derives .conjunction) (Derives .disjuncts) where
  nil := .noDisjunct
  cons := .disjunct
  inv h := by
    cases h with
    | noDisjunct => exact Or.inl ⟨rfl, rfl⟩
    | disjunct h hs => exact Or.inr ⟨_, _, _, _, _, _, _, rfl, rfl, rfl, h, hs⟩

/-- **Disjunctions of conjunctions are read as such.** -/
theorem takes_readOr {l : Level} (h : Takes (Derives .negation) EndsComparison left l.negation) :
    Takes (Derives .disjunction) EndsDisjunction left (readOr l) := by
  have hand : Takes (Derives .conjunction) EndsConjunction left
      (readChain .all (.keyword .conj) l.negation) := by
    refine takes_readChain h iterates_conjuncts (fun _ _ => endsComparison_keyword (by simp)) ?_
    intro us e d
    constructor
    · intro h
      cases h with
      | conjunction h hs => exact ⟨_, _, _, _, _, _, rfl, rfl, rfl, h, hs⟩
    · rintro ⟨_, _, _, _, _, _, rfl, rfl, rfl, h, hs⟩
      exact .conjunction h hs
  refine takes_readChain hand iterates_disjuncts
    (fun _ _ => ⟨endsComparison_keyword (by simp), by simp [peek]⟩) ?_
  intro us e d
  constructor
  · intro h
    cases h with
    | disjunction h hs => exact ⟨_, _, _, _, _, _, rfl, rfl, rfl, h, hs⟩
  · rintro ⟨_, _, _, _, _, _, rfl, rfl, rfl, h, hs⟩
    exact .disjunction h hs

/-! ### Comparisons -/

theorem readRelation_eq_some {r : Relation} (h : readRelation ts = some (r, rest)) :
    ∃ us, ts = us ++ rest ∧ us.map Token.lexeme = r.lexemes := by
  unfold readRelation at h
  split at h <;> cases h
  all_goals first | exact ⟨[_], rfl, rfl⟩ | exact ⟨[_, _], rfl, rfl⟩

/-- A comparison is taken with all its tokens.  A `not` after `is` would belong to it. -/
theorem readRelation_of_lexemes {us : List Token} {r : Relation}
    (h : us.map Token.lexeme = r.lexemes) (hrest : peek rest ≠ .keyword .negation) :
    readRelation (us ++ rest) = some (r, rest) := by
  cases r with
  | notMember | notIdentical =>
      obtain ⟨⟨_, i⟩, vs, rfl, ht, hvs⟩ := List.map_eq_cons_iff.mp h
      obtain ⟨⟨_, j⟩, rfl, ht'⟩ := List.map_eq_singleton_iff.mp hvs
      cases ht
      cases ht'
      rfl
  | identical =>
      obtain ⟨⟨_, i⟩, rfl, ht⟩ := List.map_eq_singleton_iff.mp h
      cases ht
      rcases rest with _ | ⟨⟨k, j⟩, ts⟩
      · rfl
      · cases k with
        | keyword word =>
            cases word with
            | negation => exact absurd rfl hrest
            | _ => rfl
        | _ => rfl
  | _ =>
      obtain ⟨⟨_, i⟩, rfl, ht⟩ := List.map_eq_singleton_iff.mp h
      cases ht
      rfl

theorem peek_of_unary {us : List Token} {d : ℕ} (h : Derives .unary us e d) (rest : List Token) :
    peek (us ++ rest) ≠ .keyword .negation := by
  obtain ⟨t, vs, rfl, hbegins⟩ := h.first rfl
  intro hpeek
  have ht : t.lexeme = .keyword .negation := hpeek
  rw [ht] at hbegins
  cases hbegins

theorem peek_of_comparison {us : List Token} {d : ℕ} (h : Derives .comparison us e d)
    (rest : List Token) : peek (us ++ rest) ≠ .keyword .negation := by
  cases h with
  | comparison h _ => rw [List.append_assoc]; exact peek_of_unary h _

theorem endsUnary_of_lexemes {us : List Token} {r : Relation}
    (h : us.map Token.lexeme = r.lexemes) : EndsUnary (us ++ rest) := by
  have hall : ∀ x ∈ r.lexemes.head?, x ≠ .mark .openParen ∧ x ≠ .mark .openBracket ∧
      x ≠ .operator "." ∧ x.isArithmetic = false := by cases r <;> decide
  cases us with
  | nil => cases r <;> cases h
  | cons t us =>
      obtain ⟨hparen, hbracket, hdot, harith⟩ := hall t.lexeme (by rw [← h]; rfl)
      exact ⟨⟨hparen, hbracket, hdot⟩, harith⟩

/-- What follows one operand is the next comparison, or what follows them all. -/
theorem endsUnary_append {us : List Token} {rs : List (Relation × Expression)} {d : ℕ}
    (h : Derives .comparisons us rs d) (hrest : EndsUnary rest) : EndsUnary (us ++ rest) := by
  cases h with
  | noRelation => exact hrest
  | relation hr _ _ =>
      rw [List.append_assoc, List.append_assoc]
      exact endsUnary_of_lexemes hr

theorem readRelations_ok_iff_of_none {operand : Reader Expression} {fuel : ℕ}
    {rs : List (Relation × Expression)} (hts : EndsUnary ts) (hnone : readRelation ts = none) :
    readRelations operand fuel ts = .ok (rs, rest) ↔
      ∃ us d, ts = us ++ rest ∧ Derives .comparisons us rs d ∧ d ≤ left ∧ EndsComparison rest := by
  have hstop : readRelations operand fuel ts = .ok ([], ts) := by
    unfold readRelations
    cases fuel with
    | zero => rfl
    | succ fuel => simp only [hnone]
  rw [hstop]
  constructor
  · intro h
    cases h
    exact ⟨[], 0, rfl, .noRelation, Nat.zero_le _, hts, hnone⟩
  · rintro ⟨us, d, rfl, h, -, -⟩
    cases h with
    | noRelation => rfl
    | relation hr h _ =>
        rw [List.append_assoc, List.append_assoc,
          readRelation_of_lexemes hr (peek_of_unary h _)] at hnone
        cases hnone

theorem readRelations_succ {operand : Reader Expression} {fuel : ℕ} {r : Relation}
    {after : List Token} (h : readRelation ts = some (r, after)) :
    readRelations operand (fuel + 1) ts = (do
      let (e, rest) ← operand after
      let (more, rest) ← readRelations operand fuel rest
      return ((r, e) :: more, rest)) := by
  rw [readRelations, h]

/-- **The loop over the operands of a comparison takes them all.** -/
theorem readRelations_ok_iff {operand : Reader Expression} {fuel : ℕ}
    {rs : List (Relation × Expression)} (hoperand : Takes (Derives .unary) EndsUnary left operand)
    (hfuel : ts.length ≤ fuel) (hts : EndsUnary ts) :
    readRelations operand fuel ts = .ok (rs, rest) ↔
      ∃ us d, ts = us ++ rest ∧ Derives .comparisons us rs d ∧ d ≤ left ∧ EndsComparison rest := by
  induction fuel generalizing ts rs with
  | zero =>
      have hnil : ts = [] := List.eq_nil_of_length_eq_zero (Nat.le_zero.mp hfuel)
      exact readRelations_ok_iff_of_none hts (hnil ▸ rfl)
  | succ fuel ih =>
      cases hread : readRelation ts with
      | none => exact readRelations_ok_iff_of_none hts hread
      | some found =>
          obtain ⟨r, after⟩ := found
          obtain ⟨ws, rfl, hws⟩ := readRelation_eq_some hread
          have hpos : 0 < ws.length := by
            rw [← List.length_map, hws]
            cases r <;> exact Nat.succ_pos _
          rw [readRelations_succ hread, bind_eq_ok]
          constructor
          · rintro ⟨⟨x, us⟩, hx, h⟩
            obtain ⟨⟨more, vs⟩, hmore, h⟩ := bind_eq_ok.mp h
            cases h
            obtain ⟨us', a, rfl, hunary, ha, hends⟩ := (hoperand _ _ _).mp hx
            have hlength : us.length ≤ fuel := by
              simp only [List.length_append] at hfuel
              omega
            obtain ⟨vs', b, rfl, hrest, hb, hends'⟩ := (ih hlength hends).mp hmore
            exact ⟨ws ++ us' ++ vs', max a b, by simp, .relation hws hunary hrest,
              Nat.max_le.mpr ⟨ha, hb⟩, hends'⟩
          · rintro ⟨us, d, hus, h, hd, hends⟩
            cases h with
            | noRelation =>
                rw [List.nil_append] at hus
                rw [hus, hends.2] at hread
                cases hread
            | @relation ws' us' vs' r' x more a b hws' hunary hrest =>
                have hends' := endsUnary_append hrest hends.1
                rw [List.append_assoc, List.append_assoc] at hus
                have hread' := readRelation_of_lexemes hws' (peek_of_unary hunary (vs' ++ rest))
                rw [← hus, hread] at hread'
                cases hread'
                obtain ⟨ha, hb⟩ := Nat.max_le.mp hd
                have hlength : (vs' ++ rest).length ≤ fuel := by
                  simp only [List.length_append] at hfuel ⊢
                  omega
                refine ⟨(x, vs' ++ rest),
                  (hoperand _ _ _).mpr ⟨us', a, rfl, hunary, ha, hends'⟩, ?_⟩
                rw [bind_eq_ok]
                exact ⟨(more, rest), (ih hlength hends').mpr ⟨vs', b, rfl, hrest, hb, hends⟩, rfl⟩

theorem takes_readComparison {operand : Reader Expression}
    (hoperand : Takes (Derives .unary) EndsUnary left operand) :
    Takes (Derives .comparison) EndsComparison left (readComparison operand) := by
  intro ts e rest
  unfold readComparison
  rw [bind_eq_ok]
  constructor
  · rintro ⟨⟨first, us⟩, hfirst, h⟩
    obtain ⟨⟨more, vs⟩, hmore, h⟩ := bind_eq_ok.mp h
    cases h
    obtain ⟨ts, a, rfl, hunary, ha, hends⟩ := (hoperand _ _ _).mp hfirst
    obtain ⟨vs, b, rfl, hrest, hb, hends'⟩ :=
      (readRelations_ok_iff hoperand (Nat.le_refl _) hends).mp hmore
    exact ⟨ts ++ vs, max a b, (List.append_assoc _ _ _).symm, .comparison hunary hrest,
      Nat.max_le.mpr ⟨ha, hb⟩, hends'⟩
  · rintro ⟨us, d, rfl, h, hd, hends⟩
    cases h with
    | @comparison ts vs first more a b hunary hrest =>
        obtain ⟨ha, hb⟩ := Nat.max_le.mp hd
        have hends' := endsUnary_append hrest hends.1
        refine ⟨(first, vs ++ rest), (hoperand _ _ _).mpr ⟨ts, a, ?_, hunary, ha, hends'⟩, ?_⟩
        · exact List.append_assoc _ _ _
        · rw [bind_eq_ok]
          exact ⟨(more, rest), (readRelations_ok_iff hoperand (Nat.le_refl _) hends').mpr
            ⟨vs, b, rfl, hrest, hb, hends⟩, rfl⟩

/-! ### Subscripts and arguments -/

/-- **Subscripts are read as long as they come.** -/
theorem readSubscripts_ok_iff {start : ℕ} {e' : Expression} :
    readSubscripts source start e ts = .ok (e', rest) ↔
      ∃ us keys, ts = us ++ rest ∧ Subscripts us keys ∧ e' = keys.foldl Expression.subscript e ∧
        EndsOperand rest := by
  fun_induction readSubscripts source start e ts with
  | case1 e i t j ts key hkey ih =>
      rw [ih]
      constructor
      · rintro ⟨us, keys, rfl, hs, rfl, hends⟩
        exact ⟨_, key :: keys, rfl, .cons (literal?_eq_some.mp hkey) hs, rfl, hends⟩
      · rintro ⟨us, keys, hus, hs, rfl, hends⟩
        cases hs with
        | nil => cases hus; exact absurd rfl hends.2.1
        | cons hkey' hs =>
            cases hus
            rw [literal?_eq_some.mpr hkey'] at hkey
            cases hkey
            exact ⟨_, _, rfl, hs, rfl, hends⟩
  | case2 e i t j ts hkey =>
      refine ⟨nofun, ?_⟩
      rintro ⟨us, keys, hus, hs, -, hends⟩
      cases hs with
      | nil => cases hus; exact absurd rfl hends.2.1
      | cons hkey' =>
          cases hus
          rw [literal?_eq_some.mpr hkey'] at hkey
          cases hkey
  | case3 e i ts hts =>
      refine ⟨nofun, ?_⟩
      rintro ⟨us, keys, hus, hs, -, hends⟩
      cases hs with
      | nil => cases hus; exact absurd rfl hends.2.1
      | cons => cases hus; exact absurd rfl (hts _ _ _)
  | case4 =>
      refine ⟨nofun, ?_⟩
      rintro ⟨us, keys, hus, hs, -, hends⟩
      cases hs with
      | nil => cases hus; exact absurd rfl hends.1
      | cons => cases hus
  | case5 =>
      refine ⟨nofun, ?_⟩
      rintro ⟨us, keys, hus, hs, -, hends⟩
      cases hs with
      | nil => cases hus; exact absurd rfl hends.2.2
      | cons => cases hus
  | case6 e ts _ hbracket hparen hdot =>
      have hends : EndsOperand ts := by
        refine ⟨fun h => ?_, fun h => ?_, fun h => ?_⟩
        · obtain ⟨i, us, rfl⟩ := exists_of_peek h (by simp)
          exact hparen _ _ rfl
        · obtain ⟨i, us, rfl⟩ := exists_of_peek h (by simp)
          exact hbracket _ _ rfl
        · obtain ⟨i, us, rfl⟩ := exists_of_peek h (by simp)
          exact hdot _ _ rfl
      constructor
      · intro h
        cases h
        exact ⟨[], [], rfl, .nil, rfl, hends⟩
      · rintro ⟨us, keys, rfl, hs, rfl, _⟩
        cases hs with
        | nil => rfl
        | cons => exact absurd rfl (hbracket _ _)

theorem argument?_eq_some {k : Lexeme} {a : Argument} : k.argument? = some a ↔ Plain k a := by
  constructor
  · intro h
    unfold Lexeme.argument? at h
    split at h
    · cases h
      exact .name _
    · obtain ⟨v, hv, rfl⟩ := Option.map_eq_some_iff.mp h
      exact .literal (literal?_eq_some.mp hv)
  · intro h
    cases h with
    | name n => rfl
    | literal h => cases h <;> rfl

/-- **The arguments of a call are read up to the closing parenthesis.** -/
theorem readArguments_ok_iff {start : ℕ} {arguments : List Argument} :
    readArguments source start ts = .ok (arguments, rest) ↔
      ∃ us i, ts = us ++ ⟨.mark .closeParen, i⟩ :: rest ∧ Arguments us arguments := by
  fun_induction readArguments source start ts generalizing arguments with
  | case1 t i ts a ha ih =>
      rw [bind_eq_ok]
      constructor
      · rintro ⟨⟨more, after⟩, hmore, h⟩
        cases h
        obtain ⟨us, j, rfl, hus⟩ := ih.mp hmore
        exact ⟨t :: ⟨.mark .comma, i⟩ :: us, j, rfl, .more (argument?_eq_some.mp ha) hus⟩
      · rintro ⟨us, j, hts, h⟩
        cases h with
        | last => cases hts
        | more ha' h =>
            cases hts
            rw [argument?_eq_some.mpr ha'] at ha
            cases ha
            exact ⟨(_, _), ih.mpr ⟨_, _, rfl, h⟩, rfl⟩
  | case2 t i ts ha =>
      refine ⟨nofun, ?_⟩
      rintro ⟨us, j, hts, h⟩
      cases h with
      | last => cases hts
      | more ha' =>
          cases hts
          rw [argument?_eq_some.mpr ha'] at ha
          cases ha
  | case3 t i ts a ha =>
      constructor
      · intro h
        cases h
        exact ⟨[t], i, rfl, .last (argument?_eq_some.mp ha)⟩
      · rintro ⟨us, j, hts, h⟩
        cases h with
        | last ha' =>
            cases hts
            rw [argument?_eq_some.mpr ha'] at ha
            cases ha
            rfl
        | more => cases hts
  | case4 t i ts ha =>
      refine ⟨nofun, ?_⟩
      rintro ⟨us, j, hts, h⟩
      cases h with
      | last ha' =>
          cases hts
          rw [argument?_eq_some.mpr ha'] at ha
          cases ha
      | more => cases hts
  | case5 ts hcomma hparen =>
      refine ⟨nofun, ?_⟩
      rintro ⟨us, j, rfl, h⟩
      cases h with
      | last => exact absurd rfl (hparen _ _ _)
      | more => exact absurd rfl (hcomma _ _ _)

/-! ### Levels -/

/-- The readers of a level take what they are there for, within a number of levels. -/
structure Level.Reads (l : Level) (left : ℕ) : Prop where
  expr : Takes (Derives .expr) EndsExpr left l.expr
  negation : Takes (Derives .negation) EndsComparison left l.negation
  unary : Takes (Derives .unary) EndsUnary left l.unary

/-- The level one further in, if any of the levels is left. -/
inductive Within : Option Level → ℕ → Prop
  | none : Within none 0
  | some {l : Level} {left : ℕ} : l.Reads left → Within (some l) (left + 1)

variable {inner : Option Level}

theorem Within.descend_ok_iff {P : List Token → Expression → ℕ → Prop}
    {closed : List Token → Prop} {reader : Level → Reader Expression} {us : List Token}
    (h : Within inner left)
    (hreader : ∀ {l : Level} {m : ℕ}, l.Reads m → Takes P closed m (reader l)) :
    descend inner ts reader us = .ok (e, rest) ↔
      ∃ vs d, us = vs ++ rest ∧ P vs e d ∧ d + 1 ≤ left ∧ closed rest := by
  cases h with
  | none =>
      refine ⟨nofun, ?_⟩
      rintro ⟨_, _, _, _, hd, _⟩
      exact absurd hd (Nat.not_succ_le_zero _)
  | some hl =>
      unfold descend
      simp only [hreader hl us e rest, Nat.add_le_add_iff_right]

theorem peek_of_arguments {us : List Token} {arguments : List Argument}
    (h : Arguments us arguments) (rest : List Token) : peek (us ++ rest) ≠ .mark .closeParen := by
  have hplain : ∀ {k : Lexeme} {a : Argument}, Plain k a → k ≠ .mark .closeParen := by
    rintro _ _ hplain rfl
    cases hplain with
    | literal h => cases h
  cases h with
  | last ha => exact hplain ha
  | more ha => exact hplain ha

theorem readPrimary_derives (h : Within inner left)
    (hread : readPrimary source inner ts = .ok (e, rest)) :
    ∃ us d, ts = us ++ rest ∧ Derives .primary us e d ∧ d ≤ left := by
  unfold readPrimary at hread
  rcases ts with _ | ⟨⟨k, i⟩, ts⟩
  · cases hread
  · simp only at hread
    cases hv : k.literal? with
    | some v =>
        rw [hv] at hread
        cases hread
        exact ⟨[⟨k, i⟩], 0, rfl, .literal (literal?_eq_some.mp hv), Nat.zero_le _⟩
    | none =>
        rw [hv] at hread
        simp only at hread
        split at hread
        · next n =>
          split at hread
          · next j l _ =>
            cases hread
            exact ⟨[⟨.name n, i⟩, ⟨_, j⟩, ⟨_, l⟩], 0, rfl, .callNone n i, Nat.zero_le _⟩
          · next j ts _ =>
            obtain ⟨⟨arguments, after⟩, harguments, hread⟩ := bind_eq_ok.mp hread
            cases hread
            obtain ⟨us, l, rfl, hus⟩ := readArguments_ok_iff.mp harguments
            exact ⟨⟨.name n, i⟩ :: ⟨.mark .openParen, j⟩ :: us ++ [⟨.mark .closeParen, l⟩], 0,
              by simp, .call n i hus, Nat.zero_le _⟩
          · cases hread
            exact ⟨[⟨.name n, i⟩], 0, rfl, .name n i, Nat.zero_le _⟩
        · obtain ⟨⟨e', after⟩, he, hclose⟩ := bind_eq_ok.mp hread
          obtain ⟨us, d, rfl, hus, hd, -⟩ := (h.descend_ok_iff Level.Reads.expr).mp he
          simp only at hclose
          split at hclose
          · next j _ =>
            cases hclose
            exact ⟨⟨.mark .openParen, i⟩ :: us ++ [⟨.mark .closeParen, j⟩], d + 1, by simp,
              .parens hus, hd⟩
          · cases hclose
          · cases hclose
        · cases hread
        · cases hread
        · cases hread
        · cases hread

theorem readPrimary_call {n : String} {i j : ℕ} (h : peek ts ≠ .mark .closeParen) :
    readPrimary source inner (⟨.name n, i⟩ :: ⟨.mark .openParen, j⟩ :: ts) = (do
      let (arguments, rest) ← readArguments source i ts
      return (.call n arguments i, rest)) := by
  rcases ts with _ | ⟨⟨k, l⟩, ts⟩
  · rfl
  · cases k with
    | mark m =>
        cases m with
        | closeParen => exact absurd rfl h
        | _ => rfl
    | _ => rfl

theorem readPrimary_of_derives (h : Within inner left) {us : List Token} {d : ℕ}
    (hus : Derives .primary us e d) (hd : d ≤ left) (hrest : peek rest ≠ .mark .openParen) :
    readPrimary source inner (us ++ rest) = .ok (e, rest) := by
  cases hus with
  | @literal t v hv =>
      unfold readPrimary
      simp only [List.singleton_append, literal?_eq_some.mpr hv]
  | name n i =>
      rcases rest with _ | ⟨⟨k, j⟩, ts⟩
      · rfl
      · cases k with
        | mark m =>
            cases m with
            | openParen => exact absurd rfl hrest
            | _ => rfl
        | _ => rfl
  | callNone => rfl
  | @call n i j l ts arguments ha =>
      have hread : readArguments source i (ts ++ ⟨.mark .closeParen, l⟩ :: rest) =
          .ok (arguments, rest) := readArguments_ok_iff.mpr ⟨ts, l, rfl, ha⟩
      rw [List.append_assoc, List.singleton_append, List.cons_append, List.cons_append,
        readPrimary_call (peek_of_arguments ha _), hread]
      rfl
  | @parens ts _ d i j hts =>
      have hends : EndsExpr (⟨.mark .closeParen, j⟩ :: rest) := endsExpr_of_peek (Or.inr rfl)
      rw [List.append_assoc, List.singleton_append, List.cons_append]
      have hread : descend inner (⟨.mark .openParen, i⟩ :: (ts ++ ⟨.mark .closeParen, j⟩ :: rest))
          Level.expr (ts ++ ⟨.mark .closeParen, j⟩ :: rest) =
          .ok (e, ⟨.mark .closeParen, j⟩ :: rest) :=
        (h.descend_ok_iff Level.Reads.expr).mpr ⟨ts, d, rfl, hts, hd, hends⟩
      exact bind_eq_ok.mpr ⟨_, hread, rfl⟩

theorem takes_readPostfix (h : Within inner left) :
    Takes (Derives .operand) EndsOperand left (readPostfix source inner) := by
  intro ts e rest
  unfold readPostfix
  rw [bind_eq_ok]
  constructor
  · rintro ⟨⟨first, us⟩, hfirst, hkeys⟩
    obtain ⟨vs, d, rfl, hvs, hd⟩ := readPrimary_derives h hfirst
    obtain ⟨us', keys, rfl, hus, rfl, hends⟩ := readSubscripts_ok_iff.mp hkeys
    exact ⟨vs ++ us', d, (List.append_assoc _ _ _).symm, .subscripted hvs hus, hd, hends⟩
  · rintro ⟨us, d, rfl, hus, hd, hends⟩
    cases hus with
    | @subscripted ts us first keys _ hts hus =>
        have hpeek : peek (us ++ rest) ≠ .mark .openParen := by
          cases hus with
          | nil => exact hends.1
          | cons => simp [peek]
        refine ⟨(first, us ++ rest), ?_, readSubscripts_ok_iff.mpr ⟨us, keys, rfl, hus, rfl, hends⟩⟩
        rw [List.append_assoc]
        exact readPrimary_of_derives h hts hd hpeek

/-- An operand with its signs, before what follows it is looked at. -/
def readSigned (source : List Char) (inner : Option Level) : Reader Expression := fun ts =>
  match ts with
  | ⟨.mark .minus, _⟩ :: rest => do
    let (e, rest) ← descend inner ts Level.unary rest
    return (.negative e, rest)
  | ⟨.mark .plus, _⟩ :: rest => do
    let (e, rest) ← descend inner ts Level.unary rest
    return (.positive e, rest)
  | _ => readPostfix source inner ts

theorem readUnary_eq (source : List Char) (inner : Option Level) (ts : List Token) :
    readUnary source inner ts = (do
      let (e, rest) ← readSigned source inner ts
      if (peek rest).isArithmetic then .error (forbiddenAt source (column ts))
      else .ok (e, rest)) := by
  unfold readUnary readSigned
  rcases ts with _ | ⟨⟨k, i⟩, rest⟩
  · rfl
  · cases k with
    | mark m =>
        cases m with
        | minus | plus =>
            dsimp only
            cases descend inner _ Level.unary rest <;> rfl
        | _ => rfl
    | _ => rfl

theorem readSigned_derives (h : Within inner left)
    (hread : readSigned source inner ts = .ok (e, rest)) :
    ∃ us d, ts = us ++ rest ∧ Derives .unary us e d ∧ d ≤ left ∧ EndsOperand rest := by
  unfold readSigned at hread
  split at hread
  · next i ts =>
    obtain ⟨⟨e, after⟩, he, hread⟩ := bind_eq_ok.mp hread
    cases hread
    obtain ⟨us, d, rfl, hus, hd, hends⟩ := (h.descend_ok_iff Level.Reads.unary).mp he
    exact ⟨⟨.mark .minus, i⟩ :: us, d + 1, rfl, .negative hus, hd, hends.1⟩
  · next i ts =>
    obtain ⟨⟨e, after⟩, he, hread⟩ := bind_eq_ok.mp hread
    cases hread
    obtain ⟨us, d, rfl, hus, hd, hends⟩ := (h.descend_ok_iff Level.Reads.unary).mp he
    exact ⟨⟨.mark .plus, i⟩ :: us, d + 1, rfl, .positive hus, hd, hends.1⟩
  · obtain ⟨us, d, rfl, hus, hd, hends⟩ := (takes_readPostfix h _ _ _).mp hread
    exact ⟨us, d, rfl, .unsigned hus, hd, hends⟩

theorem readSigned_of_derives (h : Within inner left) {us : List Token} {d : ℕ}
    (hus : Derives .unary us e d) (hd : d ≤ left) (hends : EndsUnary rest) :
    readSigned source inner (us ++ rest) = .ok (e, rest) := by
  cases hus with
  | @negative us e d i hus =>
      have hread : descend inner (⟨.mark .minus, i⟩ :: (us ++ rest)) Level.unary (us ++ rest) =
          .ok (e, rest) :=
        (h.descend_ok_iff Level.Reads.unary).mpr ⟨us, d, rfl, hus, hd, hends⟩
      rw [List.cons_append]
      exact bind_eq_ok.mpr ⟨_, hread, rfl⟩
  | @positive us e d i hus =>
      have hread : descend inner (⟨.mark .plus, i⟩ :: (us ++ rest)) Level.unary (us ++ rest) =
          .ok (e, rest) :=
        (h.descend_ok_iff Level.Reads.unary).mpr ⟨us, d, rfl, hus, hd, hends⟩
      rw [List.cons_append]
      exact bind_eq_ok.mpr ⟨_, hread, rfl⟩
  | unsigned hus =>
      have hread : readPostfix source inner (us ++ rest) = .ok (e, rest) :=
        (takes_readPostfix h _ _ _).mpr ⟨us, d, rfl, hus, hd, hends.1⟩
      -- an operand without a sign does not begin with one
      obtain ⟨⟨k, i⟩, vs, rfl, hbegins⟩ := hus.first rfl
      unfold readSigned
      split
      · next heq => cases heq; cases hbegins
      · next heq => cases heq; cases hbegins
      · exact hread

/-- **An operand is read with its signs.** -/
theorem takes_readUnary (h : Within inner left) :
    Takes (Derives .unary) EndsUnary left (readUnary source inner) := by
  intro ts e rest
  rw [readUnary_eq, bind_eq_ok]
  constructor
  · rintro ⟨⟨e', us⟩, hsigned, hend⟩
    simp only at hend
    split at hend
    · cases hend
    · next harith =>
      cases hend
      obtain ⟨us, d, rfl, hus, hd, hends⟩ := readSigned_derives h hsigned
      exact ⟨us, d, rfl, hus, hd, hends, eq_false_of_ne_true harith⟩
  · rintro ⟨us, d, rfl, hus, hd, hends⟩
    exact ⟨(e, rest), readSigned_of_derives h hus hd hends, if_neg (by simp [hends.2])⟩

/-- **A negation is read with everything that it negates.** -/
theorem takes_readNegation (h : Within inner left) :
    Takes (Derives .negation) EndsComparison left (readNegation source inner) := by
  intro ts e rest
  constructor
  · intro hread
    unfold readNegation at hread
    split at hread
    · next i ts =>
      obtain ⟨⟨e, after⟩, he, hread⟩ := bind_eq_ok.mp hread
      cases hread
      obtain ⟨us, d, rfl, hus, hd, hends⟩ := (h.descend_ok_iff Level.Reads.negation).mp he
      exact ⟨⟨.keyword .negation, i⟩ :: us, d + 1, rfl, .not hus, hd, hends⟩
    · obtain ⟨us, d, rfl, hus, hd, hends⟩ :=
        (takes_readComparison (takes_readUnary h) _ _ _).mp hread
      exact ⟨us, d, rfl, .affirmed hus, hd, hends⟩
  · rintro ⟨us, d, rfl, hus, hd, hends⟩
    cases hus with
    | @not us e d i hus =>
        have hread : descend inner (⟨.keyword .negation, i⟩ :: (us ++ rest)) Level.negation
            (us ++ rest) = .ok (e, rest) :=
          (h.descend_ok_iff Level.Reads.negation).mpr ⟨us, d, rfl, hus, hd, hends⟩
        rw [List.cons_append]
        exact bind_eq_ok.mpr ⟨_, hread, rfl⟩
    | affirmed hus =>
        have hread : readComparison (readUnary source inner) (us ++ rest) = .ok (e, rest) :=
          (takes_readComparison (takes_readUnary h) _ _ _).mpr ⟨us, d, rfl, hus, hd, hends⟩
        unfold readNegation
        split
        · next heq => exact absurd (congrArg peek heq) (peek_of_comparison hus rest)
        · exact hread

/-- What a conditional adds to the value it starts with. -/
def readBranches (l : Level) (value : Expression) : Reader Expression := fun ts =>
  match ts with
  | ⟨.keyword .condition, _⟩ :: rest => do
    let (condition, rest) ← readOr l rest
    match rest with
    | ⟨.keyword .alternative, _⟩ :: rest => do
      let (otherwise, rest) ← l.expr rest
      return (.choose condition value otherwise, rest)
    | _ => .error (.parse (column rest) .missingElse)
  | _ => .ok (value, ts)

theorem readBranches_of_peek {l : Level} {value : Expression} {rest : List Token}
    (h : peek rest ≠ .keyword .condition) : readBranches l value rest = .ok (value, rest) := by
  unfold readBranches
  split
  · exact absurd rfl h
  · rfl

/-- An expression, before what follows it is looked at. -/
def readChoice (l : Level) : Reader Expression := fun ts => do
  let (value, rest) ← readOr l ts
  readBranches l value rest

theorem readConditional_eq (source : List Char) (l : Level) (ts : List Token) :
    readConditional source l ts = (do
      let (e, rest) ← readChoice l ts
      match peek rest with
      | .operator "=" | .operator ":=" => .error (forbiddenAt source (column ts))
      | _ => .ok (e, rest)) := by
  unfold readConditional readChoice
  cases readOr l ts with
  | error _ => rfl
  | ok found =>
      obtain ⟨value, rest⟩ := found
      unfold readBranches
      simp only [ok_bind]
      -- by the token after the value, and then by the one after the condition
      rcases rest with _ | ⟨⟨k, i⟩, rest⟩
      · rfl
      · cases k with
        | keyword word =>
            cases word with
            | condition =>
                dsimp only
                cases readOr l rest with
                | error _ => rfl
                | ok found =>
                    obtain ⟨condition, rest⟩ := found
                    simp only [ok_bind]
                    rcases rest with _ | ⟨⟨k, j⟩, rest⟩
                    · rfl
                    · cases k with
                      | keyword word =>
                          cases word with
                          | alternative =>
                              dsimp only
                              cases l.expr rest <;> rfl
                          | _ => rfl
                      | _ => rfl
            | _ => rfl
        | _ => rfl

theorem readChoice_derives {l : Level} (hl : l.Reads left)
    (hread : readChoice l ts = .ok (e, rest)) :
    ∃ us d, ts = us ++ rest ∧ Derives .expr us e (d + 1) ∧ d ≤ left ∧ EndsDisjunction rest ∧
      peek rest ≠ .keyword .condition := by
  have hor := takes_readOr hl.negation
  unfold readChoice at hread
  obtain ⟨⟨value, after⟩, hvalue, hafter⟩ := bind_eq_ok.mp hread
  obtain ⟨us, a, rfl, hus, ha, hends⟩ := (hor _ _ _).mp hvalue
  simp only [readBranches] at hafter
  split at hafter
  · next i after =>
    obtain ⟨⟨condition, after⟩, hcondition, hbranch⟩ := bind_eq_ok.mp hafter
    obtain ⟨vs, b, rfl, hvs, hb, -⟩ := (hor _ _ _).mp hcondition
    simp only at hbranch
    split at hbranch
    · next j after =>
      obtain ⟨⟨otherwise, after⟩, hotherwise, hdone⟩ := bind_eq_ok.mp hbranch
      cases hdone
      obtain ⟨ws, c, rfl, hws, hc, hends⟩ := (hl.expr _ _ _).mp hotherwise
      exact ⟨us ++ ⟨.keyword .condition, i⟩ :: vs ++ ⟨.keyword .alternative, j⟩ :: ws,
        max a (max b c), by simp, .conditional hus hvs hws,
        Nat.max_le.mpr ⟨ha, Nat.max_le.mpr ⟨hb, hc⟩⟩, hends.1, hends.2.1⟩
    · cases hbranch
  · next hno =>
    cases hafter
    refine ⟨us, a, rfl, .plain hus, ha, hends, fun hpeek => ?_⟩
    obtain ⟨i, after, rfl⟩ := exists_of_peek hpeek (by simp)
    exact hno _ _ rfl

theorem readChoice_of_derives {l : Level} (hl : l.Reads left) {us : List Token} {d : ℕ}
    (hus : Derives .expr us e (d + 1)) (hd : d ≤ left) (hends : EndsExpr rest) :
    readChoice l (us ++ rest) = .ok (e, rest) := by
  have hor := takes_readOr hl.negation
  unfold readChoice
  cases hus with
  | plain hus =>
      rw [(hor _ _ _).mpr ⟨us, d, rfl, hus, hd, hends.1⟩, ok_bind]
      exact readBranches_of_peek hends.2.1
  | @conditional us vs ws value condition otherwise a b c i j hus hvs hws =>
      obtain ⟨ha, hbc⟩ := Nat.max_le.mp hd
      obtain ⟨hb, hc⟩ := Nat.max_le.mp hbc
      have hotherwise : l.expr (ws ++ rest) = .ok (otherwise, rest) :=
        (hl.expr _ _ _).mpr ⟨ws, c, rfl, hws, hc, hends⟩
      generalize hafter : ws ++ rest = after at hotherwise
      have hcondition : readOr l (vs ++ ⟨.keyword .alternative, j⟩ :: after) =
          .ok (condition, ⟨.keyword .alternative, j⟩ :: after) :=
        (hor _ _ _).mpr ⟨vs, b, rfl, hvs, hb, endsDisjunction_keyword (by simp)⟩
      generalize hafter' : vs ++ ⟨.keyword .alternative, j⟩ :: after = after' at hcondition
      have hvalue : readOr l (us ++ ⟨.keyword .condition, i⟩ :: after') =
          .ok (value, ⟨.keyword .condition, i⟩ :: after') :=
        (hor _ _ _).mpr ⟨us, a, rfl, hus, ha, endsDisjunction_keyword (by simp)⟩
      have hts : us ++ ⟨.keyword .condition, i⟩ :: vs ++ ⟨.keyword .alternative, j⟩ :: ws ++ rest =
          us ++ ⟨.keyword .condition, i⟩ :: after' := by
        rw [← hafter', ← hafter]
        simp
      rw [hts, hvalue, ok_bind]
      simp only [readBranches]
      rw [hcondition, ok_bind]
      simp only
      rw [hotherwise]
      rfl

theorem takes_readConditional {l : Level} (hl : l.Reads left) :
    Takes (fun us e d => Derives .expr us e (d + 1)) EndsExpr left (readConditional source l) := by
  intro ts e rest
  rw [readConditional_eq, bind_eq_ok]
  constructor
  · rintro ⟨⟨e', us⟩, hread, hend⟩
    obtain ⟨us, d, rfl, hus, hd, hends, hcondition⟩ := readChoice_derives hl hread
    simp only at hend
    split at hend
    · cases hend
    · cases hend
    · next hassign hdefine =>
      cases hend
      exact ⟨us, d, rfl, hus, hd, hends, hcondition, hassign, hdefine⟩
  · rintro ⟨us, d, rfl, hus, hd, hends⟩
    refine ⟨(e, rest), readChoice_of_derives hl hus hd hends, ?_⟩
    simp only
    split
    · next h => exact absurd h hends.2.2.1
    · next h => exact absurd h hends.2.2.2
    · rfl

/-- **Every level takes what the level further in takes, with one level more.** -/
theorem around_reads (source : List Char) (h : Within inner left) :
    (Level.around source inner).Reads left where
  expr := by
    intro ts e rest
    show descend inner ts (readConditional source) ts = _ ↔ _
    rw [h.descend_ok_iff takes_readConditional]
    constructor
    · rintro ⟨us, d, rfl, hus, hd, hends⟩
      exact ⟨us, d + 1, rfl, hus, hd, hends⟩
    · rintro ⟨us, d, rfl, hus, hd, hends⟩
      cases hus with
      | plain hus => exact ⟨us, _, rfl, .plain hus, hd, hends⟩
      | conditional hus hvs hws => exact ⟨_, _, rfl, .conditional hus hvs hws, hd, hends⟩
  negation := takes_readNegation h
  unary := takes_readUnary h

/-- **The readers take exactly the phrases of the grammar that fit into their levels.** -/
theorem level_reads (source : List Char) (left : ℕ) : (level source left).Reads left := by
  induction left with
  | zero => exact around_reads source .none
  | succ left ih => exact around_reads source (.some ih)

end Docket.Expression
