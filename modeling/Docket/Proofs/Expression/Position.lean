import Docket.Proofs.Expression.Caches
import Docket.Proofs.Expression.Reading
import Docket.Proofs.Expression.Splitting

/-! # Where errors are

The error of a source carries a column of the source, if it carries any.  Every reader of the parser
sees columns only in its tokens, and passes on tokens that it was given (`Reader.Keeps`); the claim
holds of the levels by induction (`level_keeps`), and then of all that is read and checked
(`compile_error_upto`).

In a template this column is added to the place of the opening braces.  That is not the place of the
error: `compileTemplate_error_column` compares the two, for the first expression of a template that
does not compile. -/

namespace Docket.Expression

variable {n : ℕ} {source : List Char} {ts rest : List Token} {inner : Option Level} {l : Level}

/-! ### Columns -/

/-- The column that an error carries. -/
def Error.column? : Error → Option ℕ
  | .parse column _ | .forbidden _ column | .nonConstantSubscript column => some column
  | _ => none

/-- A column that the error carries is at most `n`. -/
def Error.Upto (n : ℕ) (e : Error) : Prop := ∀ column ∈ e.column?, column ≤ n

/-- The columns of the tokens are at most `n`. -/
def Upto (n : ℕ) (ts : List Token) : Prop := ∀ t ∈ ts, t.column ≤ n

theorem Upto.tail {t : Token} (h : Upto n (t :: ts)) : Upto n ts :=
  (List.forall_mem_cons.mp h).2

theorem Upto.column_le (h : Upto n ts) : column ts ≤ n := by
  cases ts with
  | nil => exact Nat.zero_le n
  | cons t ts => exact h t List.mem_cons_self

theorem parse_upto {column : ℕ} (h : column ≤ n) (fault : Fault) :
    (Error.parse column fault).Upto n := by
  rintro _ ⟨⟩
  exact h

theorem forbiddenAt_upto {column : ℕ} (h : column ≤ n) : (forbiddenAt source column).Upto n := by
  rintro _ ⟨⟩
  exact h

theorem unexpected_upto (h : Upto n ts) : (unexpected source ts).Upto n := by
  unfold unexpected
  split
  · exact forbiddenAt_upto h.column_le
  · exact forbiddenAt_upto h.column_le
  · exact parse_upto h.column_le _
  · exact parse_upto h.column_le _

theorem invalidCall_upto (text : String) : (Error.invalidCall text).Upto n := by
  rintro _ ⟨⟩

/-! ### Readers -/

section Readers

variable {α β : Type}

/-- The error or the tokens that are left have columns up to `n`. -/
inductive Keeps (n : ℕ) : Except Error (α × List Token) → Prop
  | error {e : Error} : e.Upto n → Keeps n (.error e)
  | ok {x : α} {rest : List Token} : Upto n rest → Keeps n (.ok (x, rest))

theorem Keeps.bind {r : Except Error (α × List Token)}
    {f : α × List Token → Except Error (β × List Token)} (hr : Keeps n r)
    (hf : ∀ x rest, Upto n rest → Keeps n (f (x, rest))) : Keeps n (r >>= f) := by
  cases hr with
  | error he => exact .error he
  | ok hrest => exact hf _ _ hrest

/-- The reader keeps to the columns of its tokens. -/
def Reader.Keeps (n : ℕ) (read : Reader α) : Prop := ∀ ts, Upto n ts → Expression.Keeps n (read ts)

theorem readSeparated_keeps {separator : Lexeme} {item : Reader α} (hitem : item.Keeps n)
    (fuel : ℕ) : (readSeparated separator item fuel).Keeps n := by
  induction fuel with
  | zero => exact fun ts hts => .ok hts
  | succ fuel ih =>
      intro ts hts
      unfold readSeparated
      split
      · exact .ok hts
      · split
        · exact (hitem _ hts.tail).bind fun x rest hrest =>
            (ih rest hrest).bind fun xs rest hrest => .ok hrest
        · exact .ok hts

theorem readChain_keeps {join : List Expression → Expression} {separator : Lexeme}
    {item : Reader Expression} (hitem : item.Keeps n) : (readChain join separator item).Keeps n :=
  fun ts hts => (hitem ts hts).bind fun _ rest hrest =>
    (readSeparated_keeps hitem _ rest hrest).bind fun _ _ hrest => .ok hrest

theorem readRelation_upto {r : Relation} (h : readRelation ts = some (r, rest)) (hts : Upto n ts) :
    Upto n rest := by
  unfold readRelation at h
  split at h <;> cases h <;> first | exact hts.tail.tail | exact hts.tail

theorem readRelations_keeps {operand : Reader Expression} (hoperand : operand.Keeps n) (fuel : ℕ) :
    (readRelations operand fuel).Keeps n := by
  induction fuel with
  | zero => exact fun ts hts => .ok hts
  | succ fuel ih =>
      intro ts hts
      unfold readRelations
      split
      · exact .ok hts
      · next hrelation =>
        exact (hoperand _ (readRelation_upto hrelation hts)).bind fun e rest hrest =>
          (ih rest hrest).bind fun more rest hrest => .ok hrest

theorem readComparison_keeps {operand : Reader Expression} (hoperand : operand.Keeps n) :
    (readComparison operand).Keeps n :=
  fun ts hts => (hoperand ts hts).bind fun _ rest hrest =>
    (readRelations_keeps hoperand _ rest hrest).bind fun _ _ hrest => .ok hrest

theorem readSubscripts_keeps {start : ℕ} (hstart : start ≤ n) (e : Expression) :
    (readSubscripts source start e).Keeps n := by
  intro ts hts
  fun_induction readSubscripts source start e ts with
  | case1 e c k d ts key hkey ih => exact ih hts.tail.tail.tail
  | case2 | case3 =>
      refine .error ?_
      rintro _ ⟨⟩
      exact hts _ List.mem_cons_self
  | case4 => exact .error (invalidCall_upto _)
  | case5 => exact .error (forbiddenAt_upto hstart)
  | case6 => exact .ok hts

theorem readArguments_keeps {start : ℕ} : (readArguments source start).Keeps n := by
  intro ts hts
  fun_induction readArguments source start ts with
  | case1 a c ts x hx ih =>
      exact (ih hts.tail.tail).bind fun xs rest hrest => .ok hrest
  | case2 => exact .error (invalidCall_upto _)
  | case3 => exact .ok hts.tail.tail
  | case4 => exact .error (invalidCall_upto _)
  | case5 => exact .error (invalidCall_upto _)

end Readers

/-! ### Levels -/

/-- The parsers of a level keep to the columns of their tokens. -/
structure Level.Keeps (n : ℕ) (l : Level) : Prop where
  expr : l.expr.Keeps n
  negation : l.negation.Keeps n
  unary : l.unary.Keeps n

theorem descend_keeps (hinner : ∀ l ∈ inner, l.Keeps n) {reader : Level → Reader Expression}
    (hreader : ∀ l, l.Keeps n → (reader l).Keeps n) (hts : Upto n ts) (hrest : Upto n rest) :
    Keeps n (descend inner ts reader rest) := by
  unfold descend
  split
  · exact .error (parse_upto hts.column_le _)
  · next l => exact hreader l (hinner l rfl) rest hrest

theorem readPrimary_keeps (hinner : ∀ l ∈ inner, l.Keeps n) :
    (readPrimary source inner).Keeps n := by
  intro ts hts
  unfold readPrimary
  split
  · exact .error (unexpected_upto hts)
  · next t rest =>
    have ht : t.column ≤ n := hts t List.mem_cons_self
    have hrest : Upto n rest := hts.tail
    split
    · exact .ok hrest
    · split
      · split
        · exact .ok hrest.tail.tail
        · exact (readArguments_keeps _ hrest.tail).bind fun arguments rest hrest => .ok hrest
        · exact .ok hrest
      · refine (descend_keeps hinner (fun l hl => hl.expr) hts hrest).bind fun e rest hrest => ?_
        dsimp only
        split
        · exact .ok hrest.tail
        · exact .error (forbiddenAt_upto ht)
        · exact .error (unexpected_upto hrest)
      · exact .error (forbiddenAt_upto ht)
      · exact .error (forbiddenAt_upto ht)
      · exact .error (forbiddenAt_upto ht)
      · exact .error (unexpected_upto hts)

theorem readPostfix_keeps (hinner : ∀ l ∈ inner, l.Keeps n) : (readPostfix source inner).Keeps n :=
  fun ts hts => (readPrimary_keeps hinner ts hts).bind fun e rest hrest =>
    readSubscripts_keeps hts.column_le e rest hrest

theorem readSigned_keeps (hinner : ∀ l ∈ inner, l.Keeps n) : (readSigned source inner).Keeps n := by
  intro ts hts
  unfold readSigned
  split
  · exact (descend_keeps hinner (fun l hl => hl.unary) hts hts.tail).bind fun e rest hrest =>
      .ok hrest
  · exact (descend_keeps hinner (fun l hl => hl.unary) hts hts.tail).bind fun e rest hrest =>
      .ok hrest
  · exact readPostfix_keeps hinner _ hts

theorem readUnary_keeps (hinner : ∀ l ∈ inner, l.Keeps n) : (readUnary source inner).Keeps n := by
  intro ts hts
  rw [readUnary_eq]
  refine (readSigned_keeps hinner ts hts).bind fun e rest hrest => ?_
  dsimp only
  split
  · exact .error (forbiddenAt_upto hts.column_le)
  · exact .ok hrest

theorem readNegation_keeps (hinner : ∀ l ∈ inner, l.Keeps n) :
    (readNegation source inner).Keeps n := by
  intro ts hts
  unfold readNegation
  split
  · exact (descend_keeps hinner (fun l hl => hl.negation) hts hts.tail).bind fun e rest hrest =>
      .ok hrest
  · exact readComparison_keeps (readUnary_keeps hinner) _ hts

theorem readOr_keeps (hl : l.Keeps n) : (readOr l).Keeps n :=
  readChain_keeps (readChain_keeps hl.negation)

theorem readBranches_keeps (hl : l.Keeps n) (value : Expression) : (readBranches l value).Keeps n := by
  intro ts hts
  unfold readBranches
  split
  · refine (readOr_keeps hl _ hts.tail).bind fun condition rest hrest => ?_
    dsimp only
    split
    · exact (hl.expr _ hrest.tail).bind fun otherwise rest hrest => .ok hrest
    · exact .error (parse_upto hrest.column_le _)
  · exact .ok hts

theorem readConditional_keeps (hl : l.Keeps n) : (readConditional source l).Keeps n := by
  intro ts hts
  rw [readConditional_eq]
  have hchoice : Keeps n (readChoice l ts) := (readOr_keeps hl ts hts).bind fun value rest hrest =>
    readBranches_keeps hl value rest hrest
  refine hchoice.bind fun e rest hrest => ?_
  dsimp only
  split
  · exact .error (forbiddenAt_upto hts.column_le)
  · exact .error (forbiddenAt_upto hts.column_le)
  · exact .ok hrest

theorem around_keeps (hinner : ∀ l ∈ inner, l.Keeps n) : (Level.around source inner).Keeps n where
  expr _ hts := descend_keeps hinner (fun _ hl => readConditional_keeps hl) hts hts
  negation := readNegation_keeps hinner
  unary := readUnary_keeps hinner

theorem level_keeps (source : List Char) (left : ℕ) : (level source left).Keeps n := by
  induction left with
  | zero => exact around_keeps (by simp)
  | succ left ih =>
      refine around_keeps fun l hl => ?_
      cases hl
      exact ih

/-! ### Sources -/

theorem Lexeme.read_upto {column : ℕ} {c : Char} {s : List Char} {e : Error} (h : column ≤ n)
    (hread : Lexeme.read column c s = .error e) : e.Upto n := by
  unfold Lexeme.read at hread
  split at hread
  · cases hread
  · split at hread
    · split at hread <;> cases hread
      exact parse_upto h _
    · split at hread
      · dsimp only at hread
        split at hread <;> cases hread
        exact parse_upto h _
      · split at hread
        · cases hread
        · split at hread <;> cases hread
          exact parse_upto h _

theorem lexFrom_error_upto {total : ℕ} {s : List Char} {e : Error}
    (h : lexFrom total s = .error e) : e.Upto total := by
  fun_induction lexFrom total s with
  | case1 | case4 => cases h
  | case2 s c r hs column e' hread =>
      cases h
      exact Lexeme.read_upto (Nat.sub_le _ _) hread
  | case3 s c r hs column k rest hread e' he ih =>
      cases h
      exact ih he

theorem lexFrom_upto {total : ℕ} {s : List Char} (h : lexFrom total s = .ok ts) :
    Upto total ts := by
  fun_induction lexFrom total s generalizing ts with
  | case1 =>
      cases h
      exact List.forall_mem_singleton.mpr le_rfl
  | case2 | case3 => cases h
  | case4 s c r hs column k rest hread us hus =>
      next ih =>
      cases h
      exact List.forall_mem_cons.mpr ⟨Nat.sub_le _ _, ih hus⟩

/-- **An error is within its source.** -/
theorem parse_error_upto {source : String} {e : Error} (h : parse source = .error e) :
    e.Upto source.length := by
  rw [← String.length_toList]
  unfold parse at h
  cases hlex : lex source with
  | error e' =>
      rw [hlex] at h
      cases h
      exact lexFrom_error_upto hlex
  | ok ts =>
      rw [hlex, ok_bind] at h
      dsimp only at h
      split at h
      · cases h
        exact parse_upto (Nat.zero_le _) _
      · have hread : Keeps _ ((level source.toList maxDepth).expr ts) :=
          (level_keeps source.toList maxDepth).expr ts (lexFrom_upto hlex)
        generalize (level source.toList maxDepth).expr ts = r at hread h
        cases hread with
        | error he =>
            cases h
            exact he
        | @ok e' rest hrest =>
            rw [ok_bind] at h
            dsimp only at h
            split at h <;> cases h
            exact unexpected_upto hrest

/-- What is checked after a source was read has no column. -/
theorem compile_error_upto {rules : Rules} {source : String} {e : Error}
    (h : rules.compile source = .error e) : e.Upto source.length := by
  unfold Rules.compile at h
  cases hparse : parse source with
  | error e' =>
      rw [hparse] at h
      cases h
      exact parse_error_upto hparse
  | ok tree =>
      rw [hparse, ok_bind] at h
      have hcheck : rules.check tree = .error e := by
        cases hcheck : rules.check tree with
        | error e' =>
            rw [hcheck] at h
            cases h
            rfl
        | ok _ =>
            rw [hcheck] at h
            cases h
      unfold Rules.check at hcheck
      split at hcheck
      · cases hcheck
        rintro _ ⟨⟩
      · split at hcheck <;> cases hcheck
        rintro _ ⟨⟩

/-! ### Templates -/

section Templates

variable {rules : Rules} {ev : Evaluator} {template text : String} {start c : ℕ} {e : Error}
  {before after : List Segment}

theorem Error.shift_column? (offset : ℕ) (e : Error) :
    (e.shift offset).column? = e.column?.map (· + offset) := by
  cases e <;> rfl

theorem compileParts_eq_error (herror : rules.compile text = .error e)
    (hbefore : ∀ text' start', .placeholder text' start' ∈ before →
      ∃ tree, rules.compile text' = .ok tree) :
    rules.compileParts (before ++ .placeholder text start :: after) = .error (e.shift start) := by
  induction before with
  | nil =>
      rw [List.nil_append, Rules.compileParts, herror]
  | cons segment before ih =>
      have hrest := ih fun text' start' hmem => hbefore text' start' (List.mem_cons_of_mem _ hmem)
      cases segment with
      | text t =>
          rw [List.cons_append, Rules.compileParts, hrest]
          rfl
      | placeholder text' start' =>
          obtain ⟨tree, htree⟩ := hbefore text' start' List.mem_cons_self
          rw [List.cons_append, Rules.compileParts, htree]
          dsimp only
          rw [hrest]
          rfl

theorem compileTemplate_eq_error
    (hsplit : splitTemplate template = .ok (before ++ .placeholder text start :: after))
    (herror : rules.compile text = .error e)
    (hbefore : ∀ text' start', .placeholder text' start' ∈ before →
      ∃ tree, rules.compile text' = .ok tree) :
    rules.compileTemplate template = .error (e.shift start) := by
  unfold Rules.compileTemplate
  rw [hsplit, ok_bind]
  exact compileParts_eq_error herror hbefore

/-- The place in bytes of the character number `c` of an expression, which stands after the text
`front`, its opening braces and the blanks `l`. -/
def placeOf (front l text : String) (c : ℕ) : ℕ :=
  (front ++ "\x7b\x7b" ++ l ++ String.ofList (text.toList.take c)).utf8ByteSize

theorem placeOf_eq (front l text : String) (c : ℕ) : placeOf front l text c =
    front.utf8ByteSize + 2 + l.utf8ByteSize + bytes (text.toList.take c) := by
  rw [placeOf, bytes_eq_utf8ByteSize, String.utf8ByteSize_append, String.utf8ByteSize_append,
    String.utf8ByteSize_append]
  rfl

theorem length_le_bytes (s : List Char) : s.length ≤ bytes s := by
  induction s with
  | nil => exact Nat.zero_le _
  | cons c s ih =>
      have := c.utf8Size_pos
      rw [List.length_cons, bytes]
      omega

theorem eq_of_bytes_eq {s s' t t' : List Char} (h : s ++ t = s' ++ t') (hbytes : bytes s = bytes s') :
    s = s' ∧ t = t' := by
  have hnil : ∀ u : List Char, bytes u = 0 → u = [] := fun u hu =>
    List.length_eq_zero_iff.mp (Nat.le_zero.mp (hu ▸ length_le_bytes u))
  rcases List.append_eq_append_iff.mp h with ⟨u, rfl, rfl⟩ | ⟨u, rfl, rfl⟩
  · rw [bytes_append] at hbytes
    obtain rfl := hnil u (by omega)
    simp
  · rw [bytes_append] at hbytes
    obtain rfl := hnil u (by omega)
    simp

/-- The place of its braces says what is before an expression, and where its blanks end. -/
theorem located_unique {front l r back front' l' r' back' text : String} {c : Char} {u : List Char}
    (h : front ++ ("\x7b\x7b" ++ l ++ text ++ r ++ "\x7d\x7d") ++ back =
      front' ++ ("\x7b\x7b" ++ l' ++ text ++ r' ++ "\x7d\x7d") ++ back')
    (hfront : front.utf8ByteSize = front'.utf8ByteSize) (hl : Blanks l.toList)
    (hl' : Blanks l'.toList) (htext : text.toList = c :: u) (hc : Text.isBlank c = false) :
    front = front' ∧ l = l' := by
  have hlist := congrArg String.toList h
  simp only [String.toList_append, htext, List.append_assoc, List.cons_append] at hlist
  obtain ⟨hbefore, hafter⟩ := eq_of_bytes_eq hlist (by
    rwa [bytes_eq_utf8ByteSize, bytes_eq_utf8ByteSize, String.ofList_toList, String.ofList_toList])
  have hinside := List.append_cancel_left hafter
  have hdrop := congrArg (List.dropWhile Text.isBlank) hinside
  rw [dropWhile_isBlank_append hl hc, dropWhile_isBlank_append hl' hc] at hdrop
  rw [hdrop] at hinside
  exact ⟨String.toList_inj.mp hbefore, String.toList_inj.mp (List.append_cancel_right hinside)⟩

/-- **The column of an error in a template is before its place.**  The column within the expression,
counted in characters, is added to the place of the opening braces, counted in bytes; the braces
themselves and the blanks after them are left out. -/
theorem compileTemplate_error_column (hreads : ev.Reads rules)
    (hsplit : splitTemplate template = .ok (before ++ .placeholder text start :: after))
    (hbefore : ∀ text' start', .placeholder text' start' ∈ before →
      ∃ tree, rules.compile text' = .ok tree)
    (herror : rules.compile text = .error e) (hc : e.column? = some c) :
    (ev.compileTemplate template).1 = .error (e.shift start) ∧
    (e.shift start).column? = some (c + start) ∧
    ∃ front l r back, template = front ++ ("\x7b\x7b" ++ l ++ text ++ r ++ "\x7d\x7d") ++ back ∧
      Blanks l.toList ∧ Blanks r.toList ∧ start = front.utf8ByteSize ∧ c ≤ text.length ∧
      placeOf front l text c = start + 2 + l.utf8ByteSize + bytes (text.toList.take c) ∧
      c + start + 2 ≤ placeOf front l text c := by
  refine ⟨hreads.refused (compileTemplate_eq_error hsplit herror hbefore),
    by rw [Error.shift_column?, hc]; rfl, ?_⟩
  obtain ⟨front, l, r, back, htemplate, hl, hr, hstart⟩ :=
    (split_of_splitTemplate hsplit).located rfl
  rw [Nat.zero_add, bytes_eq_utf8ByteSize] at hstart
  have hlength : c ≤ text.toList.length := by
    rw [String.length_toList]
    exact compile_error_upto herror c hc
  have hbytes := length_le_bytes (text.toList.take c)
  rw [List.length_take, Nat.min_eq_left hlength] at hbytes
  have hplace := placeOf_eq (String.ofList front) (String.ofList l) text c
  rw [← hstart] at hplace
  refine ⟨String.ofList front, String.ofList l, String.ofList r, String.ofList back, ?_,
    by rwa [String.toList_ofList], by rwa [String.toList_ofList], hstart,
    by rwa [String.length_toList] at hlength, hplace, by omega⟩
  rw [← String.ofList_toList (s := template), htemplate, String.ofList_append, String.ofList_append,
    ofList_placed, String.ofList_toList]

namespace Sample

/-- A template with a letter of two bytes before its expression and another one in it. -/
def accented : String := "é \x7b\x7b 'é' y \x7d\x7d"

/-- A template of one expression, which is not admitted. -/
def sum : String := "\x7b\x7b a + b \x7d\x7d"

end Sample

/-- The error about `y` carries the column 7, and `y` has the place 11, after six bytes of the
expression, one blank, the braces, and the three bytes before these. -/
theorem compileTemplate_error_column_sample :
    splitTemplate Sample.accented = .ok [.text "é ", .placeholder "'é' y" 3] ∧
    Rules.default.compile "'é' y" = .error (.parse 4 (.unexpectedToken "y")) ∧
    ((Evaluator.ofRules .default 8).compileTemplate Sample.accented).1 =
      .error (.parse 7 (.unexpectedToken "y")) ∧
    placeOf "é " " " "'é' y" 4 = 3 + 2 + 1 + bytes ("'é' y".toList.take 4) ∧
    7 + 2 ≤ placeOf "é " " " "'é' y" 4 ∧ placeOf "é " " " "'é' y" 4 = 11 := by
  have hsplit : splitTemplate Sample.accented =
      .ok ([.text "é "] ++ .placeholder "'é' y" 3 :: []) := by decide +kernel
  have herror : Rules.default.compile "'é' y" = .error (.parse 4 (.unexpectedToken "y")) := by
    have hlex : lex "'é' y" = .ok [⟨.str "é", 0⟩, ⟨.name "y", 4⟩, ⟨.stop, 5⟩] := by decide +kernel
    rw [Rules.compile, parse, hlex]
    rfl
  obtain ⟨hcompile, -, front, l, r, back, htemplate, hl, -, hstart, -, hplace, hle⟩ :=
    compileTemplate_error_column (Evaluator.ofRules_reads .default 8) hsplit (by simp) herror rfl
  have hblank : Blanks " ".toList := by decide
  have hat : Sample.accented =
      "é " ++ ("\x7b\x7b" ++ " " ++ "'é' y" ++ " " ++ "\x7d\x7d") ++ "" := by decide
  obtain ⟨rfl, rfl⟩ := located_unique (htemplate.symm.trans hat) hstart.symm hl hblank rfl (by decide)
  exact ⟨hsplit, herror, hcompile, hplace, hle, by decide⟩

/-- **Errors in templates do not point at their places.**  What is wrong with the expression of
`sum` begins at its first character, which has the place 3.  The error carries the column 0, the
place of the opening braces. -/
theorem compileTemplate_error_misplaced :
    ¬(∀ template before text start after e c front l r back,
      splitTemplate template = .ok (before ++ .placeholder text start :: after) →
      (∀ text' start', .placeholder text' start' ∈ before →
        ∃ tree, Rules.default.compile text' = .ok tree) →
      Rules.default.compile text = .error e → e.column? = some c →
      template = front ++ ("\x7b\x7b" ++ l ++ text ++ r ++ "\x7d\x7d") ++ back →
      Blanks l.toList → Blanks r.toList → start = front.utf8ByteSize →
      ∃ e', ((Evaluator.ofRules .default 8).compileTemplate template).1 = .error e' ∧
        e'.column? = some (placeOf front l text c)) ∧
    splitTemplate Sample.sum = .ok [.placeholder "a + b" 0] ∧
    Rules.default.compile "a + b" = .error (.forbidden "a + b" 0) ∧
    ((Evaluator.ofRules .default 8).compileTemplate Sample.sum).1 =
      .error (.forbidden "a + b" 0) ∧
    placeOf "" " " "a + b" 0 = 3 := by
  have hsplit : splitTemplate Sample.sum = .ok ([] ++ .placeholder "a + b" 0 :: []) := by
    decide +kernel
  have herror : Rules.default.compile "a + b" = .error (.forbidden "a + b" 0) := by
    have hlex : lex "a + b" = .ok [⟨.name "a", 0⟩, ⟨.mark .plus, 2⟩, ⟨.name "b", 4⟩, ⟨.stop, 5⟩] := by
      decide +kernel
    rw [Rules.compile, parse, hlex]
    rfl
  have hcompile : ((Evaluator.ofRules .default 8).compileTemplate Sample.sum).1 =
      .error (.forbidden "a + b" 0) :=
    (Evaluator.ofRules_reads .default 8).refused (compileTemplate_eq_error hsplit herror (by simp))
  refine ⟨fun h => ?_, hsplit, herror, hcompile, by decide⟩
  obtain ⟨e', he', hcolumn⟩ := h Sample.sum [] "a + b" 0 [] _ 0 "" " " " " "" hsplit (by simp) herror
    rfl (by decide) (by decide) (by decide) (by decide)
  cases hcompile.symm.trans he'
  exact absurd hcolumn (by decide)

end Templates

end Docket.Expression
