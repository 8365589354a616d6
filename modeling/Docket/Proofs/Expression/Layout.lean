import Docket.Proofs.Expression.Spelling

/-! # How tokens lie in a source

`Laid` says of a text and a list of tokens that the text is made of the tokens: blanks, the
characters of a token, which can stand there by themselves (`Stands`), and so on to the end.  The
lists that `lex` returns are the layouts of their sources (`lex_eq_ok_iff`), so what is said of
sources and tokens from here on is an induction on `Laid`.

`lex_lossless` is what the columns say: the text from a token to the next, without the blanks at its
end, is the token by itself, and all characters but blanks are in such texts. -/

namespace Docket.Expression

open Text

variable {start total : ℕ} {c : Char} {s u g rest : List Char} {k : Lexeme} {t t' : Token}
  {ts : List Token}

/-! ### Layouts -/

/-- The text, which begins at the column `start`, is made of the tokens: each stands at its column
after blanks, and there are blanks before the end. -/
inductive Laid : ℕ → List Char → List Token → Prop
  | stop {start : ℕ} {g : List Char} : Blanks g → Laid start g [⟨.stop, start + g.length⟩]
  | token {start : ℕ} {g u rest : List Char} {c : Char} {k : Lexeme} {ts : List Token} :
      Blanks g → isBlank c = false → Stands c u rest k →
      Laid (start + g.length + (u.length + 1)) rest ts →
      Laid start (g ++ c :: (u ++ rest)) (⟨k, start + g.length⟩ :: ts)

theorem dropWhile_isBlank_eq_nil_iff : s.dropWhile isBlank = [] ↔ Blanks s :=
  List.dropWhile_eq_nil_iff

theorem dropWhile_isBlank_append (hg : Blanks g) (hc : isBlank c = false) :
    (g ++ c :: s).dropWhile isBlank = c :: s := by
  rw [List.dropWhile_append_of_pos hg, List.dropWhile_cons_of_neg (by simp [hc])]

theorem Stands.read (h : Stands c u rest k) (column : ℕ) :
    Lexeme.read column c (u ++ rest) = .ok (k, rest) :=
  h.again column rest (.refl rest) fun hnil hne => absurd hnil hne

theorem Stands.alone (h : Stands c u rest k) : Stands c u [] k := by
  have hread := h.again 0 [] .cut fun _ hne => absurd rfl hne
  rw [List.append_nil] at hread
  obtain ⟨v, rfl, hv⟩ := Lexeme.read_stands hread
  rwa [List.append_nil]

/-- **The tokens of a text are its layout.** -/
theorem laid_of_lexFrom (h : lexFrom total s = .ok ts) (htotal : start + s.length = total) :
    Laid start s ts := by
  fun_induction lexFrom total s generalizing start ts with
  | case1 s hs =>
      cases h
      rw [← htotal]
      exact .stop (dropWhile_isBlank_eq_nil_iff.mp hs)
  | case2 | case3 => cases h
  | case4 s c r hs column k rest hread us hus =>
      next ih =>
      cases h
      obtain ⟨u, rfl, hstands⟩ := Lexeme.read_stands hread
      have htext : s = s.takeWhile isBlank ++ c :: (u ++ rest) := by
        rw [← hs]
        exact List.takeWhile_append_dropWhile.symm
      have hblank : isBlank c = false := by
        have := List.head?_dropWhile_not isBlank s
        rwa [hs] at this
      have hlength := congrArg List.length htext
      simp only [List.length_append, List.length_cons] at hlength
      have hcolumn : column = start + (s.takeWhile isBlank).length := by
        simp only [column, List.length_append]
        omega
      have hg : Blanks (s.takeWhile isBlank) := fun x hx => List.mem_takeWhile_imp hx
      have hrest : Laid (start + (s.takeWhile isBlank).length + (u.length + 1)) rest us :=
        ih hus (by omega)
      rw [hcolumn]
      have := Laid.token hg hblank hstands hrest
      rwa [← htext] at this

theorem Laid.lexFrom_eq (h : Laid start s ts) : lexFrom (start + s.length) s = .ok ts := by
  induction h with
  | stop hg => exact lexFrom_of_nil (dropWhile_isBlank_eq_nil_iff.mpr hg)
  | @token start g u rest c k ts hg hc hstands _ ih =>
      have hcolumn : start + (g ++ c :: (u ++ rest)).length - ((u ++ rest).length + 1) =
          start + g.length := by
        simp only [List.length_append, List.length_cons]
        omega
      have htotal : start + g.length + (u.length + 1) + rest.length =
          start + (g ++ c :: (u ++ rest)).length := by
        simp only [List.length_append, List.length_cons]
        omega
      rw [htotal] at ih
      rw [lexFrom_of_read (dropWhile_isBlank_append hg hc) (hstands.read _), ih, hcolumn]
      rfl

theorem lex_eq_ok_iff {source : String} : lex source = .ok ts ↔ Laid 0 source.toList ts := by
  constructor
  · intro h
    exact laid_of_lexFrom h (Nat.zero_add _)
  · intro h
    have := h.lexFrom_eq
    rwa [Nat.zero_add] at this

/-! ### Columns -/

namespace Laid

theorem ne_nil (h : Laid start s ts) : ts ≠ [] := by
  cases h <;> simp

theorem first (h : Laid start s (t :: ts)) :
    ∃ g rest, s = g ++ rest ∧ Blanks g ∧ t.column = start + g.length := by
  cases h with
  | stop hg => exact ⟨s, [], (List.append_nil s).symm, hg, rfl⟩
  | token hg => exact ⟨_, _, rfl, hg, rfl⟩

theorem start_le (h : Laid start s ts) : ∀ t ∈ ts, start ≤ t.column := by
  induction h with
  | stop => simp
  | token _ _ _ _ ih =>
      refine List.forall_mem_cons.mpr ⟨Nat.le_add_right _ _, fun t ht => ?_⟩
      have := ih t ht
      omega

theorem increasing (h : Laid start s ts) : ts.Pairwise fun t t' => t.column < t'.column := by
  induction h with
  | stop => exact List.pairwise_singleton _ _
  | token _ _ _ hrest ih =>
      refine List.pairwise_cons.mpr ⟨fun t ht => ?_, ih⟩
      have := hrest.start_le t ht
      dsimp only
      omega

theorem last (h : Laid start s ts) : ts.getLast? = some ⟨.stop, start + s.length⟩ := by
  induction h with
  | stop => rfl
  | token _ _ _ hrest ih =>
      rw [List.getLast?_cons, ih]
      simp only [Option.getD_some, List.length_append, List.length_cons, Option.some.injEq,
        Token.mk.injEq, true_and]
      omega

/-- **A token stands between its column and the next**, with nothing but blanks after it. -/
theorem adjacent (h : Laid start s ts) (hpair : [t, t'] <:+: ts) :
    ∃ before c u g after rest, s = before ++ (c :: u ++ g) ++ after ∧ Blanks g ∧
      isBlank c = false ∧ Stands c u rest t.lexeme ∧ t.column = start + before.length ∧
      t'.column = t.column + (c :: u ++ g).length := by
  induction h with
  | stop => 
      have := hpair.length_le
      simp at this
  | @token start g u rest c k ts hg hc hstands hrest ih =>
      rcases List.infix_cons_iff.mp hpair with hpair | hpair
      · obtain ⟨us, hus⟩ := hpair
        cases hus
        obtain ⟨g', after, rfl, hg', hcolumn⟩ := hrest.first
        refine ⟨g, c, u, g', after, _, by simp, hg', hc, hstands, rfl, ?_⟩
        simp only [hcolumn, List.length_append, List.length_cons]
        omega
      · obtain ⟨before, c', u', g', after, rest', rfl, hg', hc', hstands', hcolumn, hnext⟩ := ih hpair
        refine ⟨g ++ c :: u ++ before, c', u', g', after, rest', by simp, hg', hc', hstands', ?_, hnext⟩
        simp only [hcolumn, List.length_append, List.length_cons]
        omega

/-- Every character that is no blank lies between a token's column and the next. -/
theorem covers (h : Laid start s ts) {i : ℕ} {x : Char} (hx : s[i]? = some x)
    (hblank : isBlank x = false) :
    ∃ t t', [t, t'] <:+: ts ∧ t.column ≤ start + i ∧ start + i < t'.column := by
  induction h generalizing i with
  | stop hg =>
      have := hg x (List.mem_of_getElem? hx)
      rw [hblank] at this
      cases this
  | @token start g u rest c k ts hg hc hstands hrest ih =>
      rcases Nat.lt_or_ge i g.length with hi | hi
      · rw [List.getElem?_append_left hi] at hx
        have := hg x (List.mem_of_getElem? hx)
        rw [hblank] at this
        cases this
      · rcases Nat.lt_or_ge i (g.length + (u.length + 1)) with hi' | hi'
        · obtain ⟨t', ts, rfl⟩ := List.exists_cons_of_ne_nil hrest.ne_nil
          have hnext := hrest.start_le t' List.mem_cons_self
          exact ⟨_, t', ⟨[], ts, rfl⟩, by dsimp only; omega, by omega⟩
        · have hrestAt : rest[i - (g.length + (u.length + 1))]? = some x := by
            rw [← hx, List.getElem?_append_right hi, ← List.cons_append,
              List.getElem?_append_right (by rw [List.length_cons]; omega)]
            congr 1
            rw [List.length_cons]
            omega
          obtain ⟨t, t', hpair, hle, hlt⟩ := ih hrestAt
          exact ⟨t, t', List.infix_cons hpair, by omega, by omega⟩

theorem le_of_pair (h : Laid start s ts) (hpair : [t, t'] <:+: ts) : t.column ≤ t'.column := by
  obtain ⟨_, _, _, _, _, _, _, _, _, _, _, hnext⟩ := h.adjacent hpair
  omega

theorem not_between (h : Laid start s ts) (hpair : [t, t'] <:+: ts) {v : Token} (hv : v ∈ ts) :
    v.column < t.column ∨ v = t ∨ t'.column ≤ v.column := by
  have hincreasing := h.increasing
  obtain ⟨a, b, rfl⟩ := hpair
  simp only [List.mem_append, List.mem_cons, List.not_mem_nil, or_false] at hv
  obtain ⟨ha, -, hb⟩ := List.pairwise_append.mp hincreasing
  obtain ⟨-, -, hfirst⟩ := List.pairwise_append.mp ha
  rcases hv with (hv | rfl | rfl) | hv
  · exact .inl (hfirst v hv t List.mem_cons_self)
  · exact .inr (.inl rfl)
  · exact .inr (.inr le_rfl)
  · exact .inr (.inr (hb t' (by simp) v hv).le)

end Laid

/-! ### Nothing is lost -/

/-- The text of a source from a token to the next, without the blanks at its end. -/
def textBetween (source : String) (t t' : Token) : List Char :=
  ((source.toList.take t'.column).drop t.column).rdropWhile isBlank

theorem length_textBetween_le {source : String} (h : t.column ≤ t'.column) :
    t.column + (textBetween source t t').length ≤ t'.column := by
  have hle := (List.rdropWhile_prefix isBlank ((source.toList.take t'.column).drop t.column)).length_le
  rw [List.length_drop, List.length_take] at hle
  unfold textBetween
  omega

theorem rdropWhile_append_blanks (hs : ∀ x ∈ s.getLast?, isBlank x = false) (hg : Blanks g) :
    (s ++ g).rdropWhile isBlank = s := by
  have hreverse : ∀ x ∈ g.reverse, isBlank x = true := fun x hx => hg x (List.mem_reverse.mp hx)
  rw [List.rdropWhile, List.reverse_append, List.dropWhile_append_of_pos hreverse]
  refine List.rdropWhile_eq_self_iff.mpr fun hne => ?_
  rw [hs _ (List.getLast_mem_getLast? hne)]
  exact Bool.false_ne_true

namespace Laid

variable {source : String}

theorem textBetween_eq (h : Laid 0 source.toList ts) (hpair : [t, t'] <:+: ts) :
    ∃ before c u g after rest, source.toList = before ++ (c :: u ++ g) ++ after ∧ Blanks g ∧
      isBlank c = false ∧ Stands c u rest t.lexeme ∧ t.column = before.length ∧
      t'.column = t.column + (c :: u ++ g).length ∧ textBetween source t t' = c :: u := by
  obtain ⟨before, c, u, g, after, rest, hsource, hg, hc, hstands, hcolumn, hnext⟩ := h.adjacent hpair
  rw [Nat.zero_add] at hcolumn
  refine ⟨before, c, u, g, after, rest, hsource, hg, hc, hstands, hcolumn, hnext, ?_⟩
  have hslice : (source.toList.take t'.column).drop t.column = c :: u ++ g := by
    rw [hsource, hnext, hcolumn, ← List.length_append, List.take_left, List.drop_left]
  unfold textBetween
  rw [hslice, rdropWhile_append_blanks hstands.solid hg]

/-- **A token is read off its own text.** -/
theorem lex_textBetween (h : Laid 0 source.toList ts) (hpair : [t, t'] <:+: ts) :
    lex (String.ofList (textBetween source t t')) =
      .ok [⟨t.lexeme, 0⟩, ⟨.stop, (textBetween source t t').length⟩] := by
  obtain ⟨-, c, u, -, -, rest, -, -, hc, hstands, -, -, htext⟩ := h.textBetween_eq hpair
  have hlaid : Laid 0 ([] ++ c :: (u ++ [])) [⟨t.lexeme, 0⟩, ⟨.stop, 0 + (u.length + 1)⟩] :=
    .token (by simp [Blanks]) hc hstands.alone (.stop (by simp [Blanks]))
  rw [htext, lex_eq_ok_iff, String.toList_ofList]
  simpa using hlaid

/-- A character that is no blank is in the text of one token, and of no other. -/
theorem existsUnique (h : Laid 0 source.toList ts) {i : ℕ} {x : Char}
    (hx : source.toList[i]? = some x) (hblank : isBlank x = false) :
    ∃! t, ∃ t', [t, t'] <:+: ts ∧ t.column ≤ i ∧ i < t.column + (textBetween source t t').length := by
  obtain ⟨t, t', hpair, hle, hlt⟩ := h.covers hx hblank
  rw [Nat.zero_add] at hle hlt
  obtain ⟨before, c, u, g, after, -, hsource, hg, -, -, hcolumn, hnext, htext⟩ :=
    h.textBetween_eq hpair
  have hin : i < t.column + (textBetween source t t').length := by
    by_contra hi
    rw [htext] at hi
    -- behind the token's characters there are blanks
    have hx : x ∈ g := by
      rw [hsource, List.getElem?_append_left (by rw [List.length_append]; omega),
        List.getElem?_append_right (by omega), List.getElem?_append_right (by omega)] at hx
      exact List.mem_of_getElem? hx
    have hblank' := hg x hx
    rw [hblank] at hblank'
    cases hblank'
  refine ⟨t, ⟨t', hpair, hle, hin⟩, ?_⟩
  rintro v ⟨v', hpair', hle', hlt'⟩
  have hmem : t ∈ ts := hpair.subset List.mem_cons_self
  have hmem' : v ∈ ts := hpair'.subset List.mem_cons_self
  have hlength : v.column + (textBetween source v v').length ≤ v'.column :=
    length_textBetween_le (h.le_of_pair hpair')
  rcases h.not_between hpair hmem' with hbefore | rfl | hafter
  · rcases h.not_between hpair' hmem with hbefore' | rfl | hafter'
    · omega
    · rfl
    · omega
  · rfl
  · omega

end Laid

/-- **Nothing is lost between a source and its tokens.**  The tokens stand one behind the other, the
last is the end of the source, and there are blanks before the first.  The text from a token to the
next, without the blanks at its end, has this token and no other when it is read by itself, and
every character that is no blank is in one of these texts. -/
theorem lex_lossless {source : String} (h : lex source = .ok ts) :
    ts.Pairwise (fun t t' => t.column < t'.column) ∧
    ts.getLast? = some ⟨.stop, source.length⟩ ∧
    (∀ t ∈ ts.head?, Blanks (source.toList.take t.column)) ∧
    (∀ t t', [t, t'] <:+: ts → lex (String.ofList (textBetween source t t')) =
      .ok [⟨t.lexeme, 0⟩, ⟨.stop, (textBetween source t t').length⟩]) ∧
    ∀ i x, source.toList[i]? = some x → isBlank x = false → ∃! t, ∃ t', [t, t'] <:+: ts ∧
      t.column ≤ i ∧ i < t.column + (textBetween source t t').length := by
  have hlaid := lex_eq_ok_iff.mp h
  refine ⟨hlaid.increasing, ?_, fun t ht => ?_, fun t t' => hlaid.lex_textBetween, fun i x =>
    hlaid.existsUnique⟩
  · rw [hlaid.last, Nat.zero_add, String.length_toList]
  · obtain ⟨us, rfl⟩ := List.head?_eq_some_iff.mp ht
    obtain ⟨g, rest, hsource, hg, hcolumn⟩ := hlaid.first
    rw [hsource, hcolumn, Nat.zero_add, List.take_left]
    exact hg

namespace Sample

/-- Tokens that touch each other, with an escape and an underscore. -/
def dense : String := " 1_0>='it\\'s' .x "

/-- The tokens of `dense`. -/
def denseTokens : List Token :=
  [⟨.int 10, 1⟩, ⟨.mark .greaterEqual, 4⟩, ⟨.str "it's", 6⟩, ⟨.operator ".", 14⟩, ⟨.name "x", 15⟩,
    ⟨.stop, 17⟩]

end Sample

/-- The text from the third token of `dense` to the fourth is a text between quotes. -/
theorem lex_lossless_sample :
    lex Sample.dense = .ok Sample.denseTokens ∧
    Sample.denseTokens.Pairwise (fun t t' => t.column < t'.column) ∧
    lex "'it\\'s'" = .ok [⟨.str "it's", 0⟩, ⟨.stop, 7⟩] := by
  have hlex : lex Sample.dense = .ok Sample.denseTokens := by decide +kernel
  obtain ⟨hincreasing, -, -, halone, -⟩ := lex_lossless hlex
  have hpair : [⟨.str "it's", 6⟩, ⟨.operator ".", 14⟩] <:+: Sample.denseTokens :=
    ⟨[⟨.int 10, 1⟩, ⟨.mark .greaterEqual, 4⟩], [⟨.name "x", 15⟩, ⟨.stop, 17⟩], rfl⟩
  have htext : textBetween Sample.dense ⟨.str "it's", 6⟩ ⟨.operator ".", 14⟩ = "'it\\'s'".toList := by
    decide
  have hread := halone _ _ hpair
  rw [htext] at hread
  exact ⟨hlex, hincreasing, hread⟩

end Docket.Expression
