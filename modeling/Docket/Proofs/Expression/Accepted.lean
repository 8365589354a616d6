import Docket.Proofs.Expression.Pieces
import Docket.Proofs.Expression.Reading
import Mathlib.Data.List.Induction

/-! # The sources that are accepted

A source is read as an expression exactly if its tokens are an `expr` of the grammar, with nothing
but the end of the source after them and no more than 64 levels open at once.  `parse_grammar` says
so, and what it means for reserved words, colons and operators of other languages: wherever they
stand outside string literals, the source is refused. -/

namespace Docket.Expression

variable {ts : List Token}

/-- The source is an expression of the grammar that stands for the tree: no number in it is beyond
the format, and never are more than 64 levels open. -/
def Grammatical (source : String) (e : Expression) : Prop :=
  ∃ ts column depth, lex source = .ok (ts ++ [⟨.stop, column⟩]) ∧ Derives .expr ts e depth ∧
    (∀ t ∈ ts, t.lexeme ≠ .float none) ∧ depth ≤ 64

theorem parse_eq_ok {source : String} {e : Expression} :
    parse source = .ok e ↔ ∃ ts rest, lex source = .ok ts ∧ peek ts ≠ .stop ∧
      (level source.toList maxDepth).expr ts = .ok (e, rest) ∧ peek rest = .stop := by
  unfold parse
  rw [bind_eq_ok]
  constructor
  · rintro ⟨ts, hlex, hparse⟩
    split at hparse
    · cases hparse
    · next hne =>
      obtain ⟨⟨e', rest⟩, hread, hend⟩ := bind_eq_ok.mp hparse
      simp only at hend
      split at hend
      · next hpeek =>
        cases hend
        exact ⟨ts, rest, hlex, hne, hread, hpeek⟩
      · cases hend
  · rintro ⟨ts, rest, hlex, hne, hread, hpeek⟩
    refine ⟨ts, hlex, ?_⟩
    rw [if_neg hne]
    refine bind_eq_ok.mpr ⟨_, hread, ?_⟩
    simp only
    rw [hpeek]
    rfl

theorem eq_stop_of_peek {us rest vs : List Token} {last : Token} (h : us ++ rest = vs ++ [last])
    (hus : last ∉ us) (hvs : ∀ t ∈ vs, t.lexeme ≠ .stop) (hpeek : peek rest = .stop) :
    rest = [last] := by
  rcases List.eq_nil_or_concat rest with rfl | ⟨ws, t, rfl⟩
  · rw [List.append_nil] at h
    exact absurd (h ▸ List.mem_append_right vs List.mem_cons_self) hus
  · rw [List.concat_eq_append, ← List.append_assoc] at h
    obtain ⟨rfl, ht⟩ := List.append_inj' h rfl
    rw [List.concat_eq_append] at hpeek ⊢
    cases ht
    cases ws with
    | nil => rfl
    | cons w ws => exact absurd hpeek (hvs w (List.mem_append_right us List.mem_cons_self))

theorem parse_ok_iff {source : String} {e : Expression} :
    parse source = .ok e ↔ Grammatical source e := by
  have hlevel := (level_reads source.toList maxDepth).expr
  rw [parse_eq_ok]
  constructor
  · rintro ⟨ts, rest, hlex, -, hread, hpeek⟩
    obtain ⟨us, depth, rfl, hus, hdepth, -⟩ := (hlevel _ _ _).mp hread
    obtain ⟨vs, hts, hvs⟩ := (lexFrom_cuts hlex).stop_last
    have hterminals := hus.terminals
    have hstop : ⟨.stop, source.toList.length⟩ ∉ us := fun h => by cases hterminals _ h
    refine ⟨us, _, depth, eq_stop_of_peek hts hstop hvs hpeek ▸ hlex, hus, ?_, hdepth⟩
    intro t ht hfloat
    cases hfloat ▸ hterminals t ht
  · rintro ⟨ts, column, depth, hlex, hts, -, hdepth⟩
    obtain ⟨t, us, rfl, -⟩ := hts.first rfl
    have hends : EndsExpr [⟨.stop, column⟩] := endsExpr_of_peek (.inl rfl)
    refine ⟨_, _, hlex, ?_, (hlevel _ _ _).mpr ⟨_, depth, rfl, hts, hdepth, hends⟩, rfl⟩
    intro hstop
    have hterminal := hts.terminals t List.mem_cons_self
    rw [show t.lexeme = .stop from hstop] at hterminal
    cases hterminal

theorem exists_error {source : String} (h : ∀ e, ¬Grammatical source e) :
    ∃ error, parse source = .error error := by
  cases hparse : parse source with
  | error error => exact ⟨error, rfl⟩
  | ok e => exact absurd (parse_ok_iff.mp hparse) (h e)

theorem Grammatical.isForeign {source : String} {e : Expression} (h : Grammatical source e)
    (hlex : lex source = .ok ts) : ∀ t ∈ ts, t.lexeme.isForeign = false := by
  obtain ⟨us, column, depth, hlex', hus, -, -⟩ := h
  cases hlex.symm.trans hlex'
  intro t ht
  rcases List.mem_append.mp ht with ht | ht
  · exact Lexeme.isForeign_of_isTerminal (hus.terminals t ht)
  · cases List.mem_singleton.mp ht
    rfl

/-- **A source is accepted exactly if it is an expression of the grammar**, and stands for the tree
of its derivation.  All others are errors, among them those with a reserved word, a colon or an
operator of another language outside string literals. -/
theorem parse_grammar (source : String) :
    (∀ e, parse source = .ok e ↔ Grammatical source e) ∧
    ((∀ e, ¬Grammatical source e) → ∃ error, parse source = .error error) ∧
    (∀ ts, lex source = .ok ts → (∃ t ∈ ts, t.lexeme.isForeign = true) →
      ∃ error, parse source = .error error) ∧
    ((∃ p ∈ pieces source.toList, p ∈ foreignPieces) → ∃ error, parse source = .error error) := by
  refine ⟨fun e => parse_ok_iff, exists_error, ?_, ?_⟩
  · rintro ts hlex ⟨t, ht, hforeign⟩
    refine exists_error fun e he => ?_
    simp [he.isForeign hlex t ht] at hforeign
  · rintro ⟨p, hp, hforeign⟩
    refine exists_error fun e he => ?_
    obtain ⟨ts, column, depth, hlex, -, -, -⟩ := id he
    exact (lexFrom_cuts hlex).pieces_notMem (he.isForeign hlex) p hp hforeign

/-- `not in` is one comparison, and a reserved word is refused. -/
theorem parse_grammar_sample :
    parse "x not in names" =
      .ok (.compare (.name "x" 0) [(.notMember, .name "names" 9)]) ∧
    ∃ error, parse "lambda: 1" = .error error := by
  refine ⟨((parse_grammar _).1 _).mpr ⟨[⟨.name "x", 0⟩, ⟨.keyword .negation, 2⟩,
    ⟨.keyword .member, 6⟩, ⟨.name "names", 9⟩], 14, 1, by decide +kernel, ?_, by decide, by decide⟩,
    (parse_grammar _).2.2.2 ⟨"lambda".toList, ?_, by decide⟩⟩
  · have hoperand (n : String) (i : ℕ) : Derives .unary [⟨.name n, i⟩] (.name n i) 0 :=
      .unsigned (.subscripted (.name n i) .nil)
    have hrelation : Derives .comparisons
        ([⟨.keyword .negation, 2⟩, ⟨.keyword .member, 6⟩] ++ [⟨.name "names", 9⟩] ++ [])
        [(.notMember, .name "names" 9)] 0 := .relation rfl (hoperand "names" 9) .noRelation
    exact .plain (.disjunction (.conjunction (.affirmed (.comparison (hoperand "x" 0) hrelation))
      .noConjunct) .noDisjunct)
  · have hpieces : pieces "lambda: 1".toList = ["lambda".toList, [':'], ['1']] := by
      decide +kernel
    rw [hpieces]
    exact List.mem_cons_self

end Docket.Expression
