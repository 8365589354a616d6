import Docket.Proofs.Expression.Accepted
import Docket.Proofs.Expression.Layout

/-! # Blanks at the end of a source

Blanks after a source make no difference to its tokens and its tree, except where it ends in the
point of a number (`Dangling`).  The point belongs to the number if nothing follows it at all, and
not if a blank does.  So `1.` is a number and `1. ` is refused.  `parse_append_blanks` says both, for
all sources and all blanks. -/

namespace Docket.Expression

open Text

variable {start column total : ℕ} {c : Char} {s g u w rest : List Char} {k : Lexeme}
  {t : Token} {ts ts' : List Token}

/-! ### A point at the end of a numeral -/

theorem mem_getLast?_of_cons {x : Char} (h : x ∈ (c :: s).getLast?) (hc : c ≠ x) :
    x ∈ s.getLast? := by
  cases s with
  | nil => exact absurd (Option.some.inj h) hc
  | cons => exact h

/-- A numeral that ends in its point goes up to the point only where blanks follow it. -/
theorem readNumeral_dangling (isFloat : Bool) (text s : List Char) (hdot : '.' ∈ s.getLast?)
    (hend : (readNumeral isFloat text s).rest = []) :
    isFloat = false ∧ (readNumeral isFloat text s).isFloat = true ∧ ∀ w, Blanks w → w ≠ [] →
      ∃ text', readNumeral isFloat text (s ++ w) = ⟨text', false, '.' :: w⟩ := by
  -- a numeral that has its point already does not end in one
  have hclash : ∀ {P : Prop}, true = false ∧ P → ∀ {Q : Prop}, Q := fun h => nomatch h.1
  induction isFloat, text, s using readNumeral.induct with
  | case1 => cases hdot
  | case2 isFloat text c s hc ih =>
      have hpoint : c ≠ '.' := by
        rintro rfl
        exact absurd hc (by decide)
      rw [readNumeral_digit hc] at hend ⊢
      simp only [List.cons_append, readNumeral_digit hc]
      exact ih (mem_getLast?_of_cons hdot hpoint) hend
  | case3 isFloat text s _ ih =>
      rw [readNumeral_underscore] at hend ⊢
      simp only [List.cons_append, readNumeral_underscore]
      exact ih (mem_getLast?_of_cons hdot (by decide)) hend
  | case4 isFloat text c s _ _ h ih =>
      obtain ⟨rfl, hfloat, hall⟩ := h
      obtain rfl : isFloat = false := by simpa using hfloat
      rw [readNumeral_point hall] at hend ⊢
      cases s with
      | cons x s => exact hclash (ih hdot hend)
      | nil =>
          refine ⟨rfl, by rw [readNumeral], fun w hw hne => ⟨text, ?_⟩⟩
          obtain ⟨x, w, rfl⟩ := List.exists_cons_of_ne_nil hne
          refine readNumeral_stop (by decide) (by decide) ?_ (by simp)
          rintro ⟨-, -, hx⟩
          have hx' := isDigit_of_isBlank (hw x List.mem_cons_self)
          rw [show isDigit x = true from hx] at hx'
          cases hx'
  | case5 isFloat text c _ _ h s _ ih =>
      have hpoint : c ≠ '.' := by rcases h.1 with rfl | rfl <;> decide
      rw [readNumeral_signed h.1 (.inl rfl) h.2] at hend
      exact hclash (ih (mem_getLast?_of_cons (mem_getLast?_of_cons hdot hpoint) (by decide)) hend)
  | case6 isFloat text c _ _ h s _ ih =>
      have hpoint : c ≠ '.' := by rcases h.1 with rfl | rfl <;> decide
      rw [readNumeral_signed h.1 (.inr rfl) h.2] at hend
      exact hclash (ih (mem_getLast?_of_cons (mem_getLast?_of_cons hdot hpoint) (by decide)) hend)
  | case7 isFloat text c _ _ h s hplus hminus _ ih =>
      have hpoint : c ≠ '.' := by rcases h.1 with rfl | rfl <;> decide
      have hs := not_sign hplus hminus
      rw [readNumeral_exponent h.1 h.2 hs] at hend
      exact hclash (ih (mem_getLast?_of_cons hdot hpoint) hend)
  | case8 isFloat text c s hdigit hunderscore hpoint hexp =>
      rw [readNumeral_stop hdigit hunderscore hpoint hexp] at hend
      cases hend

/-- What is read before blanks of a token that ends in a point. -/
structure Breaks (c : Char) (u : List Char) (k : Lexeme) : Prop where
  float : ∃ x, k = .float x
  breaks : ∀ column w k' rest, Blanks w → w ≠ [] → Lexeme.read column c (u ++ w) = .ok (k', rest) →
    (∃ i, k' = .int i) ∧ rest = '.' :: w

theorem Breaks.of_numeral (hc : isDigit c = true ∨ c = '.')
    (h : (readNumeral (c == '.') [c] u).lexeme? = some k)
    (hend : (readNumeral (c == '.') [c] u).rest = []) (hdot : '.' ∈ (c :: u).getLast?) :
    Breaks c u k := by
  have hu : '.' ∈ u.getLast? := by
    cases u with
    | cons => exact hdot
    | nil =>
        obtain rfl : c = '.' := Option.some.inj hdot
        rw [show ('.' == '.') = true from rfl, readNumeral] at h
        cases h
  obtain ⟨hpoint, hfloat, hblanks⟩ := readNumeral_dangling _ _ u hu hend
  have hdigit : isDigit c = true := hc.resolve_right fun hc => by
    rw [hc] at hpoint
    cases hpoint
  constructor
  · obtain ⟨hint, -⟩ | ⟨-, hk⟩ := NumeralText.lexeme?_cases h
    · cases hfloat.symm.trans hint
    · exact hk
  · intro column w k' rest hw hne hread
    obtain ⟨text', hnumeral⟩ := hblanks w hw hne
    cases hlexeme : (readNumeral (c == '.') [c] (u ++ w)).lexeme? with
    | none =>
        obtain ⟨e, he⟩ : ∃ e, Lexeme.read column c (u ++ w) = .error e :=
          Lexeme.read_of_invalid (.inl hdigit) hlexeme
        cases he.symm.trans hread
    | some k'' =>
        cases (Lexeme.read_of_numeral (.inl hdigit) hlexeme).symm.trans hread
        rw [hnumeral] at hlexeme ⊢
        obtain ⟨-, hk⟩ | ⟨hfloat', -⟩ := NumeralText.lexeme?_cases hlexeme
        · exact ⟨hk, rfl⟩
        · cases hfloat'

theorem Lexeme.read_dangling (h : Lexeme.read column c u = .ok (k, []))
    (hdot : '.' ∈ (c :: u).getLast?) : (∃ o, k = .operator o) ∨ Breaks c u k := by
  have hcut := Lexeme.read_cut h
  generalize hrest : [] = rest at hcut
  cases hcut with
  | foreign => exact .inl ⟨_, rfl⟩
  | @mark m rest hmark =>
      subst hrest
      have htext := readMark_eq_some hmark
      rw [List.append_nil] at htext
      rw [htext] at hdot
      have hall : ∀ m : Mark, '.' ∉ m.text.toList := by
        intro m
        cases m <;> decide
      exact absurd (List.mem_of_getLast? hdot) (hall m)
  | str hquote hread =>
      subst hrest
      obtain ⟨v, rfl, -⟩ := readQuoted_again hread
      rw [← List.cons_append, List.getLast?_concat] at hdot
      cases hdot
      rcases hquote with h | h <;> cases h
  | numeral hc hlexeme => exact .inr (.of_numeral hc hlexeme hrest.symm hdot)
  | word hquote hstart =>
      have hword : ∀ x ∈ c :: u, continuesWord x = true :=
        List.forall_mem_cons.mpr ⟨continuesWord_of_startsWord hstart,
          List.dropWhile_eq_nil_iff.mp hrest.symm⟩
      exact absurd (hword _ (List.mem_of_getLast? hdot)) (by decide)

/-! ### Blanks after the last token -/

/-- The last token is a floating-point number, and the source ends in its point. -/
def Dangling (s : List Char) (ts : List Token) : Prop :=
  '.' ∈ s.getLast? ∧ ∃ us x i j, ts = us ++ [⟨.float x, i⟩, ⟨.stop, j⟩]

theorem Dangling.append (h : Dangling rest ts) (s : List Char) (t : Token) :
    Dangling (s ++ rest) (t :: ts) := by
  obtain ⟨hdot, us, x, i, j, rfl⟩ := h
  exact ⟨List.mem_getLast?_append_of_mem_getLast? hdot, t :: us, x, i, j, rfl⟩

theorem lexFrom_point (hw : Blanks w) :
    lexFrom total ('.' :: w) = .ok [⟨.operator ".", total - (w.length + 1)⟩, ⟨.stop, total⟩] := by
  have hnumeral : ¬StartsNumeral '.' w := by
    rintro (hdigit | ⟨-, hdigit⟩)
    · exact absurd hdigit (by decide)
    · rw [(Option.any_eq_false _ _).mpr fun x hx =>
        isDigit_of_isBlank (hw x (List.mem_of_head? hx))] at hdigit
      cases hdigit
  have hread : Lexeme.read (total - (w.length + 1)) '.' w = .ok (.operator ".", w) :=
    Lexeme.read_of_operator rfl (by decide) hnumeral (by decide) rfl
  rw [lexFrom_of_read rfl hread, lexFrom_of_nil (dropWhile_isBlank_eq_nil_iff.mpr hw)]
  rfl

/-- A number that ends in its point is an integer and a point before blanks. -/
theorem Breaks.lexFrom_eq (h : Breaks c u k) (hg : Blanks g) (hc : isBlank c = false)
    (hw : Blanks w) (hne : w ≠ []) (hlex : lexFrom total (g ++ c :: (u ++ w)) = .ok ts) :
    ∃ n, ts = [⟨.int n, total - ((u ++ w).length + 1)⟩, ⟨.operator ".", total - (w.length + 1)⟩,
      ⟨.stop, total⟩] := by
  have hdrop := dropWhile_isBlank_append (s := u ++ w) hg hc
  cases hread : Lexeme.read (total - ((u ++ w).length + 1)) c (u ++ w) with
  | error e => cases (lexFrom_of_error hdrop hread).symm.trans hlex
  | ok p =>
      obtain ⟨k', rest⟩ := p
      obtain ⟨⟨n, rfl⟩, rfl⟩ := h.breaks _ w k' rest hw hne hread
      rw [lexFrom_of_read hdrop hread, lexFrom_point hw] at hlex
      cases hlex
      exact ⟨n, rfl⟩

theorem Stands.append_blanks (h : Stands c u rest k) (hw : Blanks w)
    (hk : rest = [] → w ≠ [] → '.' ∈ (c :: u).getLast? → ∃ o, k = .operator o) :
    Stands c u (rest ++ w) k where
  solid := h.solid
  again column rest' hrest hpoint := by
    refine h.again column rest' ?_ fun hnil hne hlast => ?_
    · cases hrest with
      | cut => exact .cut
      | blanks hw' =>
          rw [List.append_assoc]
          exact .blanks (List.forall_mem_append.mpr ⟨hw, hw'⟩)
    · by_cases hwnil : w = []
      · exact hpoint (by rw [hnil, hwnil, List.append_nil]) hne hlast
      · exact hk hnil hwnil hlast

/-- A token that nothing follows breaks off if it ends in a point and is not one. -/
theorem Stands.dangling (h : Stands c u [] k) (hdot : '.' ∈ (c :: u).getLast?) :
    (∃ o, k = .operator o) ∨ Breaks c u k := by
  have hread := h.read 0
  rw [List.append_nil] at hread
  exact Lexeme.read_dangling hread hdot

namespace Laid

theorem of_nil (h : Laid start [] ts) : ts = [⟨.stop, start⟩] := by
  generalize hs : [] = s at h
  cases h with
  | stop =>
      subst hs
      rfl
  | token => simp at hs

theorem dangling_of_nil (h : Laid start [] ts) (hk : ∃ x, k = .float x)
    (hdot : '.' ∈ (c :: u).getLast?) (g : List Char) (i : ℕ) :
    Dangling (g ++ c :: (u ++ [])) (⟨k, i⟩ :: ts) := by
  obtain ⟨x, rfl⟩ := hk
  rw [List.append_nil, h.of_nil]
  exact ⟨List.mem_getLast?_append_of_mem_getLast? hdot, [], x, i, start, rfl⟩

theorem breaks_of_nil (h : Laid start [] ts) (hstands : Stands c u [] k) {i : ℕ}
    (hs : Dangling (g ++ c :: u) (⟨k, i⟩ :: ts)) : Breaks c u k := by
  obtain ⟨hdot, us, x, j, l, hts⟩ := hs
  rw [h.of_nil] at hts
  obtain ⟨rfl, hts⟩ := List.append_inj' ((List.nil_append _).trans hts) rfl
  cases hts
  rw [List.getLast?_append_of_ne_nil _ (List.cons_ne_nil c u)] at hdot
  obtain ⟨o, ho⟩ | hbreaks := hstands.dangling hdot
  · cases ho
  · exact hbreaks

/-- **Blanks at the end only move the end**, unless the source dangles. -/
theorem append_blanks (h : Laid start s ts) (hw : Blanks w) (hs : w = [] ∨ ¬Dangling s ts) :
    Laid start (s ++ w) (ts.dropLast ++ [⟨.stop, start + (s ++ w).length⟩]) := by
  induction h with
  | stop hg => exact .stop (List.forall_mem_append.mpr ⟨hg, hw⟩)
  | @token start g u rest c k ts hg hc hstands hrest ih =>
      have hnext := ih (hs.imp_right fun hs hdangling => hs (by
        have := hdangling.append (g ++ c :: u) ⟨k, start + g.length⟩
        rwa [List.append_assoc, List.cons_append] at this))
      have hstands' := hstands.append_blanks hw fun hnil hne hdot => by
        subst hnil
        refine (hstands.dangling hdot).resolve_right fun hbreaks => ?_
        exact hs.resolve_left hne (hrest.dangling_of_nil hbreaks.float hdot g _)
      have hlength : start + g.length + (u.length + 1) + (rest ++ w).length =
          start + (g ++ c :: (u ++ rest) ++ w).length := by
        simp only [List.length_append, List.length_cons]
        omega
      rw [hlength] at hnext
      have hlaid := Laid.token hg hc hstands' hnext
      rw [List.dropLast_cons_of_ne_nil hrest.ne_nil]
      simpa using hlaid

theorem blanks_of_singleton (h : Laid start s [t]) : Blanks s := by
  cases h with
  | stop hg => exact hg
  | token _ _ _ hrest => exact absurd rfl hrest.ne_nil

theorem dangling_rest (h : Laid start rest ts) (hne : rest ≠ []) {p : List Char}
    (hs : Dangling (p ++ rest) (t :: ts)) : Dangling rest ts := by
  obtain ⟨hdot, us, x, i, j, hts⟩ := hs
  rw [List.getLast?_append_of_ne_nil _ hne] at hdot
  cases us with
  | nil =>
      cases hts
      have hblank := h.blanks_of_singleton _ (List.mem_of_getLast? hdot)
      exact absurd hblank (by decide)
  | cons _ us =>
      cases hts
      exact ⟨hdot, us, x, i, j, rfl⟩

/-- **A source that dangles breaks off before the point** when blanks follow. -/
theorem breaks (h : Laid start s ts) (hw : Blanks w) (hne : w ≠ []) (hs : Dangling s ts)
    (htotal : total = start + (s ++ w).length) (hlex : lexFrom total (s ++ w) = .ok ts') :
    ∃ us x i n, ts = us ++ [⟨.float x, i⟩, ⟨.stop, start + s.length⟩] ∧
      ts' = us ++ [⟨.int n, i⟩, ⟨.operator ".", start + s.length - 1⟩, ⟨.stop, total⟩] := by
  induction h generalizing ts' with
  | stop =>
      obtain ⟨-, us, x, i, j, hts⟩ := hs
      have := congrArg List.length hts
      simp at this
  | @token start g u rest c k ts hg hc hstands hrest ih =>
      have htext : g ++ c :: (u ++ rest) ++ w = g ++ c :: (u ++ (rest ++ w)) := by simp
      rw [htext] at hlex htotal
      simp only [List.length_append, List.length_cons] at htotal
      have hend : start + g.length + (u.length + 1) + rest.length =
          start + (g ++ c :: (u ++ rest)).length := by
        simp only [List.length_append, List.length_cons]
        omega
      have hcolumn : total - ((u ++ (rest ++ w)).length + 1) = start + g.length := by
        simp only [htotal, List.length_append]
        omega
      rw [← hend]
      -- the blanks are seen only by the last token
      by_cases hnil : rest = []
      · subst hnil
        rw [List.append_nil] at hs
        rw [List.nil_append] at hcolumn hlex
        have hbreaks := hrest.breaks_of_nil hstands hs
        obtain ⟨x, rfl⟩ := hbreaks.float
        obtain ⟨n, rfl⟩ := hbreaks.lexFrom_eq hg hc hw hne hlex
        have hpoint : total - (w.length + 1) = start + g.length + (u.length + 1) - 1 := by
          simp only [htotal, List.length_nil]
          omega
        refine ⟨[], x, start + g.length, n, ?_, ?_⟩
        · rw [hrest.of_nil]
          rfl
        · rw [hcolumn, hpoint]
          rfl
      · have hread := hstands.again (total - ((u ++ (rest ++ w)).length + 1)) (rest ++ w) (.blanks hw)
          fun h => absurd h hnil
        rw [lexFrom_of_read (dropWhile_isBlank_append hg hc) hread] at hlex
        cases hus : lexFrom total (rest ++ w) with
        | error e =>
            rw [hus] at hlex
            cases hlex
        | ok us' =>
            rw [hus] at hlex
            cases hlex
            rw [← List.cons_append, ← List.append_assoc] at hs
            obtain ⟨us, x, i, n, hts, hts'⟩ := ih (hrest.dangling_rest hnil hs) (by
              rw [htotal, List.length_append]
              omega) hus
            refine ⟨⟨k, start + g.length⟩ :: us, x, i, n, ?_, ?_⟩
            · rw [hts, List.cons_append]
            · rw [hts', hcolumn, List.cons_append]

end Laid

/-! ### The same source with blanks at its end -/

section Sources

variable {source blanks : String}

theorem grammatical_iff {us : List Token} {i : ℕ} {e : Expression}
    (h : lex source = .ok (us ++ [⟨.stop, i⟩])) :
    Grammatical source e ↔ ∃ depth, Derives .expr us e depth ∧
      (∀ t ∈ us, t.lexeme ≠ .float none) ∧ depth ≤ 64 := by
  constructor
  · rintro ⟨us', j, depth, hlex, hus, hfloat, hdepth⟩
    obtain ⟨rfl, -⟩ := List.append_inj' (Except.ok.inj (h.symm.trans hlex)) rfl
    exact ⟨depth, hus, hfloat, hdepth⟩
  · rintro ⟨depth, hus, hfloat, hdepth⟩
    exact ⟨us, i, depth, h, hus, hfloat, hdepth⟩

theorem lex_append_of_not_dangling (h : lex source = .ok ts) (hw : Blanks blanks.toList)
    (hs : blanks = "" ∨ ¬Dangling source.toList ts) :
    lex (source ++ blanks) = .ok (ts.dropLast ++ [⟨.stop, (source ++ blanks).length⟩]) := by
  have hlaid := (lex_eq_ok_iff.mp h).append_blanks hw (hs.imp_left fun hs => by rw [hs]; rfl)
  rw [Nat.zero_add, ← String.toList_append, String.length_toList] at hlaid
  exact lex_eq_ok_iff.mpr hlaid

theorem lex_append_of_dangling (h : lex source = .ok ts) (hw : Blanks blanks.toList)
    (hne : blanks ≠ "") (hs : Dangling source.toList ts)
    (hlex : lex (source ++ blanks) = .ok ts') :
    ∃ us x i n, ts = us ++ [⟨.float x, i⟩, ⟨.stop, source.length⟩] ∧
      ts' = us ++ [⟨.int n, i⟩, ⟨.operator ".", source.length - 1⟩,
        ⟨.stop, (source ++ blanks).length⟩] := by
  unfold lex at hlex
  rw [String.toList_append] at hlex
  obtain ⟨us, x, i, n, hts, hts'⟩ := (lex_eq_ok_iff.mp h).breaks hw (by simpa using hne) hs
    (Nat.zero_add _).symm hlex
  rw [← String.toList_append] at hts'
  simp only [Nat.zero_add, String.length_toList] at hts hts'
  exact ⟨us, x, i, n, hts, hts'⟩

/-- **Blanks at the end of a source do not count, unless it dangles.**  They change no token but the
column of the end, and no tree.  Where the last token is a number that ends in its point, they make
an integer and an operator of it, and the source is refused. -/
theorem parse_append_blanks (h : lex source = .ok ts) (hw : Blanks blanks.toList) :
    (blanks = "" ∨ ¬Dangling source.toList ts →
      lex (source ++ blanks) = .ok (ts.dropLast ++ [⟨.stop, (source ++ blanks).length⟩]) ∧
      ∀ e, parse (source ++ blanks) = .ok e ↔ parse source = .ok e) ∧
    (Dangling source.toList ts → blanks ≠ "" →
      (∀ ts', lex (source ++ blanks) = .ok ts' → ∃ us x i n,
        ts = us ++ [⟨.float x, i⟩, ⟨.stop, source.length⟩] ∧
        ts' = us ++ [⟨.int n, i⟩, ⟨.operator ".", source.length - 1⟩,
          ⟨.stop, (source ++ blanks).length⟩]) ∧
      ∃ error, parse (source ++ blanks) = .error error) := by
  constructor
  · intro hs
    have hlex := lex_append_of_not_dangling h hw hs
    obtain ⟨us, rfl, -⟩ := (lexFrom_cuts h).stop_last
    rw [List.dropLast_concat] at hlex ⊢
    refine ⟨hlex, fun e => ?_⟩
    rw [parse_ok_iff, parse_ok_iff, grammatical_iff h, grammatical_iff hlex]
  · intro hs hne
    refine ⟨fun ts' => lex_append_of_dangling h hw hne hs, exists_error fun e he => ?_⟩
    obtain ⟨us', j, -, hlex, -⟩ := id he
    obtain ⟨us, -, i, n, -, hts'⟩ := lex_append_of_dangling h hw hne hs hlex
    rw [hts'] at hlex
    have hforeign := he.isForeign hlex ⟨.operator ".", source.length - 1⟩ (by simp)
    cases hforeign

end Sources

/-! ### A numeral with nothing after its point -/

theorem lex_one_point : lex "1." = .ok [⟨.float (some (Double.ofInt 1)), 0⟩, ⟨.stop, 2⟩] := by
  have hnumeral : readNumeral ('1' == '.') ['1'] ['.'] = ⟨['1', '.'], true, []⟩ := by
    rw [show ('1' == '.') = false from rfl, readNumeral_point rfl, readNumeral]
    rfl
  have hvalue : Double.ofDecimal 1 0 = some (Double.ofInt 1) := by decide +kernel
  have hlexeme : (readNumeral ('1' == '.') ['1'] ['.']).lexeme? =
      some (.float (some (Double.ofInt 1))) := by
    rw [hnumeral, ← hvalue]
    rfl
  have hread : Lexeme.read (2 - (['.'].length + 1)) '1' ['.'] =
      .ok (.float (some (Double.ofInt 1)), []) := by
    rw [Lexeme.read_of_numeral (.inl (by decide)) hlexeme, hnumeral]
  have hdrop : "1.".toList.dropWhile isBlank = ['1', '.'] := by decide
  have hend : lexFrom 2 [] = .ok [⟨.stop, 2⟩] := lexFrom_of_nil rfl
  have hlex := lexFrom_of_read hdrop hread
  rw [hend] at hlex
  exact hlex

theorem parse_one_point : parse "1." = .ok (.literal (.num (.float (Double.ofInt 1)))) := by
  have hlex : lex "1." = .ok ([⟨.float (some (Double.ofInt 1)), 0⟩] ++ [⟨.stop, 2⟩]) := lex_one_point
  refine parse_ok_iff.mpr ((grammatical_iff hlex).mpr ⟨1, ?_, by simp, by decide⟩)
  exact Derives.expr (.unsigned (.subscripted (.literal (.float _)) .nil))

theorem dangling_one_point :
    Dangling "1.".toList [⟨.float (some (Double.ofInt 1)), 0⟩, ⟨.stop, 2⟩] :=
  ⟨by decide, [], _, 0, 2, rfl⟩

/-- A line break after `x == 2` does not count, and a blank after `1.` does. -/
theorem parse_append_blanks_sample :
    lex "x == 2" = .ok [⟨.name "x", 0⟩, ⟨.mark .equal, 2⟩, ⟨.int 2, 5⟩, ⟨.stop, 6⟩] ∧
    lex "x == 2\n" = .ok [⟨.name "x", 0⟩, ⟨.mark .equal, 2⟩, ⟨.int 2, 5⟩, ⟨.stop, 7⟩] ∧
    ∃ error, parse "1. " = .error error := by
  have hlex : lex "x == 2" = .ok [⟨.name "x", 0⟩, ⟨.mark .equal, 2⟩, ⟨.int 2, 5⟩, ⟨.stop, 6⟩] := by
    decide +kernel
  have hbreak : Blanks "\n".toList := by decide
  have hblank : Blanks " ".toList := by decide
  obtain ⟨hkept, -⟩ := (parse_append_blanks hlex hbreak).1 (.inr fun h => absurd h.1 (by decide))
  obtain ⟨-, hrefused⟩ := (parse_append_blanks lex_one_point hblank).2 dangling_one_point (by decide)
  exact ⟨hlex, hkept, hrefused⟩

/-- **A blank can make another source.**  `1.` is a floating-point number, and with a blank after it
an integer and a point, which is refused. -/
theorem parse_append_blanks_point :
    ¬(∀ source blanks ts, lex source = .ok ts → Blanks blanks.toList →
      ∃ ts', lex (source ++ blanks) = .ok ts' ∧ ts'.map Token.lexeme = ts.map Token.lexeme) ∧
    lex "1." = .ok [⟨.float (some (Double.ofInt 1)), 0⟩, ⟨.stop, 2⟩] ∧
    lex "1. " = .ok [⟨.int 1, 0⟩, ⟨.operator ".", 1⟩, ⟨.stop, 3⟩] ∧
    parse "1." = .ok (.literal (.num (.float (Double.ofInt 1)))) ∧
    parse "1. " = .error (.forbidden "1." 0) := by
  have hlex : lex "1. " = .ok [⟨.int 1, 0⟩, ⟨.operator ".", 1⟩, ⟨.stop, 3⟩] := by decide +kernel
  have hparse : parse "1. " = .error (.forbidden "1." 0) := by
    rw [parse, hlex]
    rfl
  refine ⟨fun h => ?_, lex_one_point, hlex, parse_one_point, hparse⟩
  obtain ⟨ts', hlex', hkinds⟩ := h "1." " " _ lex_one_point (by decide)
  cases hlex.symm.trans hlex'
  cases hkinds

end Docket.Expression
