import Docket.Proofs.Expression.Pieces
import Mathlib.Data.List.DropRight
import Mathlib.Data.List.TakeWhile

/-! # What a token is made of

A token is read off the front of a text, and how far it goes is said by what follows it.  Here is
when that does not matter.  What follows is `Loosened` if all of it is cut off, or blanks are put
after it; a token that was read off the text as it was is then read off it again, made of the same
characters (`Lexeme.read_stands`).  The reasons are different ones.

* A mark is read unless a character that is barred for it follows, and blanks never are
  (`readMark_eq_some_iff`).
* An operator has no blanks in it, so none that is longer can come about (`readOperator_loosened`).
* A text between quotes ends with its quote (`readQuoted_again`).
* A numeral looks at most two characters ahead, for a digit after a point or a sign after an
  exponent (`readNumeral_resumes`).  It takes a point for its own also where nothing follows the
  point, and this is the exception: before blanks such a point is not read again. -/

namespace Docket.Expression

open Text

variable {column : ℕ} {c : Char} {s u w rest rest' : List Char} {k : Lexeme}

/-! ### What may follow instead -/

/-- There is nothing but blanks. -/
def Blanks (w : List Char) : Prop := ∀ x ∈ w, isBlank x = true

instance (w : List Char) : Decidable (Blanks w) :=
  decidable_of_iff (w.all isBlank = true) List.all_eq_true

/-- What follows a token is cut off, or has blanks after it. -/
inductive Loosened (rest : List Char) : List Char → Prop
  | cut : Loosened rest []
  | blanks {w : List Char} : Blanks w → Loosened rest (rest ++ w)

theorem Loosened.refl (rest : List Char) : Loosened rest rest := by
  have h : Loosened rest (rest ++ []) := .blanks (by simp [Blanks])
  rwa [List.append_nil] at h

theorem Loosened.head {p : Char → Bool} (h : Loosened rest rest')
    (hblank : ∀ x, isBlank x = true → p x = false) (hrest : ∀ x ∈ rest.head?, p x = false) :
    ∀ x ∈ rest'.head?, p x = false := by
  cases h with
  | cut => simp
  | @blanks w hw =>
      cases rest with
      | cons y rest => exact hrest
      | nil =>
          intro x hx
          exact hblank x (hw x (List.mem_of_head? hx))

theorem prefix_of_append_blanks {p : List Char} (hw : Blanks w) (hp : ∀ x ∈ p, isBlank x = false)
    (h : p <+: s ++ w) : p <+: s := by
  obtain hle | ⟨q, rfl⟩ := List.prefix_or_prefix_of_prefix h (List.prefix_append s w)
  · exact hle
  · have hq : q <+: w := (List.prefix_append_right_inj s).mp h
    have hnil : q = [] := List.eq_nil_iff_forall_not_mem.mpr fun x hx => by
      have hnot := hp x (List.mem_append_right s hx)
      rw [hw x (hq.subset hx)] at hnot
      cases hnot
    simp [hnil]

theorem Loosened.head_append {p : Char → Bool} (h : Loosened rest rest')
    (hblank : ∀ x, isBlank x = true → p x = false) (hrest : ∀ x ∈ (u ++ rest).head?, p x = false) :
    ∀ x ∈ (u ++ rest').head?, p x = false := by
  cases u with
  | nil => exact h.head hblank hrest
  | cons => exact hrest

theorem Loosened.prefix_append {p : List Char} (h : Loosened rest rest')
    (hp : ∀ x ∈ p, isBlank x = false) (hbegin : p <+: u ++ rest') : p <+: u ++ rest := by
  cases h with
  | cut =>
      rw [List.append_nil] at hbegin
      exact hbegin.trans (List.prefix_append u rest)
  | blanks hw =>
      rw [← List.append_assoc] at hbegin
      exact prefix_of_append_blanks hw hp hbegin

/-! ### Marks -/

/-- The characters that may not follow a mark, as they would make another token of it. -/
def Mark.barred : Mark → List Char
  | .less => ['=', '<']
  | .greater => ['=', '>']
  | .minus => ['=', '>']
  | .plus | .colon => ['=']
  | _ => []

theorem Mark.not_barred_of_isBlank (m : Mark) {x : Char} (h : isBlank x = true) :
    m.barred.contains x = false := by
  have hall : ∀ y ∈ ['=', '<', '>'], isBlank y = false := by
    have : (['=', '<', '>'].all fun y => !isBlank y) = true := by decide
    simpa using this
  have hsub : m.barred ⊆ ['=', '<', '>'] := by cases m <;> decide
  refine eq_false_of_ne_true fun hmem => ?_
  have := hall x (hsub (List.contains_iff_mem.mp hmem))
  rw [h] at this
  cases this

theorem Mark.barred_of_long (m : Mark) : 2 ≤ m.text.toList.length → m.barred = [] := by
  cases m <;> decide

/-- **A mark is read off a text exactly if it is written there and no barred character follows.** -/
theorem readMark_eq_some_iff {m : Mark} : readMark s = some (m, rest) ↔
    s = m.text.toList ++ rest ∧ ∀ x ∈ rest.head?, m.barred.contains x = false := by
  constructor
  · intro h
    obtain rfl := readMark_eq_some h
    refine ⟨rfl, fun x hx => eq_false_of_ne_true fun hmem => ?_⟩
    rcases rest with _ | ⟨y, rest⟩
    · cases hx
    · cases hx
      have hmem := List.contains_iff_mem.mp hmem
      cases m with
      | less | greater | minus =>
          simp only [Mark.barred, List.mem_cons, List.not_mem_nil, or_false] at hmem
          rcases hmem with rfl | rfl <;> cases h
      | plus | colon =>
          obtain rfl := List.mem_singleton.mp hmem
          cases h
      | _ => cases hmem
  · rintro ⟨rfl, h⟩
    rcases rest with _ | ⟨x, rest⟩
    · cases m <;> rfl
    · cases m <;> simp_all [Mark.barred, Mark.text, readMark]

theorem readMark_loosened {m : Mark} (h : readMark s = some (m, rest))
    (hrest : Loosened rest rest') : readMark (m.text.toList ++ rest') = some (m, rest') := by
  obtain ⟨rfl, hbarred⟩ := readMark_eq_some_iff.mp h
  exact readMark_eq_some_iff.mpr ⟨rfl, hrest.head (fun x => m.not_barred_of_isBlank) hbarred⟩

/-! ### Operators of other languages -/

theorem after?_eq_some_iff {start : List Char} :
    after? start s = some rest ↔ s = start ++ rest := by
  induction start generalizing s with
  | nil => simp [after?, eq_comm]
  | cons c start ih =>
      cases s with
      | nil => simp [after?]
      | cons d s =>
          unfold after?
          split
          · next hcd => rw [ih, hcd, List.cons_append, List.cons.injEq, and_iff_right rfl]
          · next hcd =>
            refine iff_of_false (by simp) fun heq => hcd ?_
            rw [List.cons_append] at heq
            exact (List.cons.inj heq).1.symm

theorem foreignOperators_notBlank :
    ∀ o ∈ foreignOperators, ∀ x ∈ o.toList, isBlank x = false := by
  have hall : (foreignOperators.all fun o => o.toList.all fun x => !isBlank x) = true := by decide
  intro o ho x hx
  simpa using List.all_eq_true.mp (List.all_eq_true.mp hall o ho) x hx

/-- **An operator is read off again**, since one that goes on after it would have been read before. -/
theorem readOperator_loosened {operators : List String}
    (ho : ∀ o ∈ operators, ∀ x ∈ o.toList, isBlank x = false)
    (h : readOperator operators s = some (k, rest)) :
    ∃ o ∈ operators, k = .operator o ∧ s = o.toList ++ rest ∧
      ∀ rest', Loosened rest rest' → readOperator operators (o.toList ++ rest') = some (k, rest') := by
  induction operators with
  | nil => cases h
  | cons o os ih =>
      unfold readOperator at h
      split at h
      · next hafter =>
        cases h
        refine ⟨o, List.mem_cons_self, rfl, after?_eq_some_iff.mp hafter, fun rest' _ => ?_⟩
        unfold readOperator
        rw [after?_eq_some_iff.mpr rfl]
      · next hafter =>
        obtain ⟨hfirst, hlater⟩ := List.forall_mem_cons.mp ho
        obtain ⟨o', hmem, rfl, rfl, hagain⟩ := ih hlater h
        refine ⟨o', List.mem_cons_of_mem _ hmem, rfl, rfl, fun rest' hrest => ?_⟩
        have hnone : after? o.toList (o'.toList ++ rest') = none := by
          refine Option.eq_none_iff_forall_ne_some.mpr fun r hr => ?_
          have hbegin : o.toList <+: o'.toList ++ rest :=
            hrest.prefix_append hfirst ⟨r, (after?_eq_some_iff.mp hr).symm⟩
          obtain ⟨r', hr'⟩ := hbegin
          cases hafter.symm.trans (after?_eq_some_iff.mpr hr'.symm)
        unfold readOperator
        rw [hnone]
        exact hagain rest' hrest

/-! ### Texts between quotes -/

section Quoted

variable {quote e : Char}

theorem readQuoted_close (quote : Char) (s : List Char) :
    readQuoted quote (quote :: s) = some ([], s) := by
  rw [readQuoted.eq_def]
  exact if_pos rfl

theorem readQuoted_escape (hquote : '\\' ≠ quote) (e : Char) (s : List Char) :
    readQuoted quote ('\\' :: e :: s) = (readQuoted quote s).map fun (cs, rest) =>
      ((if e = 'n' then '\n' else if e = 't' then '\t' else if e = 'r' then '\r' else e) :: cs,
        rest) := by
  rw [readQuoted.eq_def]
  simp only [if_neg hquote, if_true]

theorem readQuoted_plain (hquote : c ≠ quote) (hescape : c ≠ '\\') (s : List Char) :
    readQuoted quote (c :: s) = (readQuoted quote s).map fun (cs, rest) => (c :: cs, rest) := by
  rw [readQuoted.eq_def]
  simp only [if_neg hquote, if_neg hescape]

/-- **A text between quotes ends where it ends**, whatever follows it. -/
theorem readQuoted_again {cs : List Char} (h : readQuoted quote s = some (cs, rest)) :
    ∃ u, s = u ++ quote :: rest ∧
      ∀ rest', readQuoted quote (u ++ quote :: rest') = some (cs, rest') := by
  induction s using readQuoted.induct quote generalizing cs rest with
  | case1 => cases h
  | case2 s =>
      rw [readQuoted_close] at h
      cases h
      exact ⟨[], rfl, readQuoted_close quote⟩
  | case3 hquote =>
      rw [readQuoted, if_neg hquote, if_pos rfl] at h
      cases h
  | case4 e s hquote ih =>
      rw [readQuoted_escape hquote] at h
      obtain ⟨⟨ds, _⟩, hread, heq⟩ := Option.map_eq_some_iff.mp h
      cases heq
      obtain ⟨u, rfl, hagain⟩ := ih hread
      refine ⟨'\\' :: e :: u, rfl, fun rest' => ?_⟩
      rw [List.cons_append, List.cons_append, readQuoted_escape hquote, hagain]
      rfl
  | case5 c s hquote hescape ih =>
      rw [readQuoted_plain hquote hescape] at h
      obtain ⟨⟨ds, _⟩, hread, heq⟩ := Option.map_eq_some_iff.mp h
      cases heq
      obtain ⟨u, rfl, hagain⟩ := ih hread
      refine ⟨c :: u, rfl, fun rest' => ?_⟩
      rw [List.cons_append, readQuoted_plain hquote hescape, hagain]
      rfl

end Quoted

/-! ### Numerals -/

section Numerals

variable {isFloat : Bool} {text : List Char}

theorem readNumeral_digit (hc : isDigit c = true) :
    readNumeral isFloat text (c :: s) = readNumeral isFloat (text ++ [c]) s := by
  rw [readNumeral.eq_def]
  simp only [if_pos hc]

theorem readNumeral_underscore :
    readNumeral isFloat text ('_' :: s) = readNumeral isFloat text s := by
  have hdigit : ¬isDigit '_' = true := by decide
  rw [readNumeral.eq_def]
  simp only [if_neg hdigit, if_true]

/-- A point belongs to a numeral without one if a digit follows it, or nothing. -/
theorem readNumeral_point (hs : s.head?.all isDigit = true) :
    readNumeral false text ('.' :: s) = readNumeral true (text ++ ['.']) s := by
  have hdigit : ¬isDigit '.' = true := by decide
  have hunderscore : '.' ≠ '_' := by decide
  rw [readNumeral.eq_def]
  simp only [if_neg hdigit, if_neg hunderscore, hs]
  rfl

theorem readNumeral_signed {sign : Char} (hc : c = 'e' ∨ c = 'E') (hsign : sign = '+' ∨ sign = '-')
    (htext : text ≠ []) :
    readNumeral isFloat text (c :: sign :: s) = readNumeral true (text ++ [c, sign]) s := by
  rw [readNumeral.eq_def]
  rcases hc with rfl | rfl <;> rcases hsign with rfl | rfl <;> simp [htext, isDigit]

theorem not_sign (hplus : ∀ r, s = '+' :: r → False) (hminus : ∀ r, s = '-' :: r → False) :
    ∀ x ∈ s.head?, (x == '+' || x == '-') = false := by
  cases s with
  | nil => simp
  | cons x s =>
      intro y hy
      cases hy
      refine eq_false_of_ne_true fun hmem => ?_
      simp only [Bool.or_eq_true, beq_iff_eq] at hmem
      rcases hmem with rfl | rfl
      · exact hplus s rfl
      · exact hminus s rfl

theorem readNumeral_exponent (hc : c = 'e' ∨ c = 'E') (htext : text ≠ [])
    (hplus : ∀ x ∈ s.head?, (x == '+' || x == '-') = false) :
    readNumeral isFloat text (c :: s) = readNumeral true (text ++ [c]) s := by
  have hexponent : (c = 'e' ∨ c = 'E') ∧ text ≠ [] := ⟨hc, htext⟩
  have hdigit : ¬isDigit c = true := by rcases hc with rfl | rfl <;> decide
  have hunderscore : c ≠ '_' := by rcases hc with rfl | rfl <;> decide
  have hpoint : ¬(c = '.' ∧ (!isFloat) = true ∧ s.head?.all isDigit = true) := by
    rintro ⟨rfl, -⟩
    revert hc
    decide
  rw [readNumeral.eq_def]
  simp only [if_neg hdigit, if_neg hunderscore, if_neg hpoint, if_pos hexponent]
  split
  · cases hplus _ rfl
  · cases hplus _ rfl
  · rfl

theorem readNumeral_stop (hdigit : ¬isDigit c = true) (hunderscore : c ≠ '_')
    (hpoint : ¬(c = '.' ∧ (!isFloat) = true ∧ s.head?.all isDigit = true))
    (hexponent : ¬((c = 'e' ∨ c = 'E') ∧ text ≠ [])) :
    readNumeral isFloat text (c :: s) = ⟨text, isFloat, c :: s⟩ := by
  rw [readNumeral.eq_def]
  simp only [if_neg hdigit, if_neg hunderscore, if_neg hpoint, if_neg hexponent]

theorem notMem_numeralCharacters_of_isBlank (h : isBlank c = true) : c ∉ numeralCharacters :=
  fun hmem => by
    have := (numeralCharacter_notBlank c hmem).1
    rw [h] at this
    cases this

theorem readNumeral_blanks (hw : Blanks w) : readNumeral isFloat text w = ⟨text, isFloat, w⟩ := by
  cases w with
  | nil => rw [readNumeral]
  | cons x w =>
      have hx := notMem_numeralCharacters_of_isBlank (hw x List.mem_cons_self)
      refine readNumeral_stop (fun h => hx (mem_numeralCharacters_of_isDigit h)) ?_ ?_ ?_
      · rintro rfl
        exact hx (by decide)
      · rintro ⟨rfl, -⟩
        exact hx (by decide)
      · rintro ⟨rfl | rfl, -⟩ <;> exact hx (by decide)

/-- The numeral at the front of a text is read again where what follows it is loosened.  A point at
the end of the text is not read again before blanks. -/
def Resumes (read : List Char → NumeralText) (s : List Char) : Prop :=
  ∃ u, s = u ++ (read s).rest ∧ (∀ x ∈ u, x ∈ numeralCharacters) ∧
    ∀ rest', Loosened (read s).rest rest' → ((read s).rest = [] → '.' ∈ s.getLast? → rest' = []) →
      read (u ++ rest') = { read s with rest := rest' }

/-- Characters that are read first, whatever comes after them, do not matter. -/
theorem Resumes.append {read read' : List Char → NumeralText} {p : List Char}
    (h : Resumes read' s) (hp : ∀ x ∈ p, x ∈ numeralCharacters) (hread : read (p ++ s) = read' s)
    (hagain : ∀ u rest', s = u ++ (read' s).rest → Loosened (read' s).rest rest' →
      ((read' s).rest = [] → '.' ∈ (p ++ s).getLast? → rest' = []) →
      read (p ++ (u ++ rest')) = read' (u ++ rest')) : Resumes read (p ++ s) := by
  obtain ⟨u, hs, hu, hsame⟩ := h
  refine ⟨p ++ u, ?_, List.forall_mem_append.mpr ⟨hp, hu⟩, fun rest' hrest hpoint => ?_⟩
  · rw [hread, List.append_assoc, ← hs]
  · rw [hread] at hrest hpoint ⊢
    rw [List.append_assoc, hagain u rest' hs hrest hpoint]
    exact hsame rest' hrest fun hnil hlast =>
      hpoint hnil (List.mem_getLast?_append_of_mem_getLast? hlast)

theorem Resumes.stop {read : List Char → NumeralText} (h : (read s).rest = s)
    (hagain : ∀ rest', Loosened s rest' → read rest' = { read s with rest := rest' }) :
    Resumes read s :=
  ⟨[], h.symm, by simp, fun rest' hrest _ => hagain rest' (h ▸ hrest)⟩

/-- **A numeral ends where it ends**, but a point at the end of a source belongs to it only if nothing
follows. -/
theorem readNumeral_resumes (isFloat : Bool) (text s : List Char) :
    Resumes (readNumeral isFloat text) s := by
  have hsign : ∀ x, isBlank x = true → (x == '+' || x == '-') = false := by
    intro x hx
    refine eq_false_of_ne_true fun hmem => notMem_numeralCharacters_of_isBlank hx ?_
    simp only [Bool.or_eq_true, beq_iff_eq] at hmem
    rcases hmem with rfl | rfl <;> decide
  have hexponent : ∀ {c : Char}, c = 'e' ∨ c = 'E' → c ∈ numeralCharacters := by
    rintro _ (rfl | rfl) <;> decide
  induction isFloat, text, s using readNumeral.induct with
  | case1 isFloat text =>
      have hread : ∀ {w}, Blanks w → readNumeral isFloat text w = ⟨text, isFloat, w⟩ :=
        readNumeral_blanks
      have hnil := hread (w := []) (by simp [Blanks])
      refine .stop (by rw [hnil]) fun rest' hrest => ?_
      rw [hnil]
      cases hrest with
      | cut => exact hnil
      | blanks hw => exact hread hw
  | case2 isFloat text c s hc ih =>
      exact ih.append (p := [c]) (by simpa using mem_numeralCharacters_of_isDigit hc)
        (readNumeral_digit hc) fun _ _ _ _ _ => readNumeral_digit hc
  | case3 isFloat text s _ ih =>
      exact ih.append (p := ['_']) (by simp [numeralCharacters]) readNumeral_underscore
        fun _ _ _ _ _ => readNumeral_underscore
  | case4 isFloat text c s _ _ h ih =>
      obtain ⟨rfl, hfloat, hall⟩ := h
      obtain rfl : isFloat = false := by simpa using hfloat
      refine ih.append (p := ['.']) (by simp [numeralCharacters]) (readNumeral_point hall) ?_
      intro u rest' hs _ hpoint
      refine readNumeral_point ?_
      cases u with
      | cons x u =>
          rw [hs] at hall
          exact hall
      | nil =>
          -- no digit comes after the numeral, so the point is the last character of the text
          have hhead := readNumeral_head true (text ++ ['.']) s
          rw [← List.nil_append (readNumeral _ _ _).rest, ← hs] at hhead
          have hnil : s = [] := by
            cases s with
            | nil => rfl
            | cons x s =>
                have hx : isDigit x = true := hall
                rw [hhead x rfl] at hx
                cases hx
          have hrest : rest' = [] := hpoint (hs.symm.trans hnil) (by rw [hnil]; rfl)
          rw [hrest]
          rfl
  | case5 isFloat text c _ _ h s _ ih =>
      exact ih.append (p := [c, '+']) (by simpa [numeralCharacters] using hexponent h.1)
        (readNumeral_signed h.1 (.inl rfl) h.2) fun _ _ _ _ _ => readNumeral_signed h.1 (.inl rfl) h.2
  | case6 isFloat text c _ _ h s _ ih =>
      exact ih.append (p := [c, '-']) (by simpa [numeralCharacters] using hexponent h.1)
        (readNumeral_signed h.1 (.inr rfl) h.2) fun _ _ _ _ _ => readNumeral_signed h.1 (.inr rfl) h.2
  | case7 isFloat text c _ _ h s hplus hminus _ ih =>
      have hs := not_sign hplus hminus
      refine ih.append (p := [c]) (by simpa using hexponent h.1)
        (readNumeral_exponent h.1 h.2 hs) fun u rest' hu hrest _ => ?_
      rw [hu] at hs
      exact readNumeral_exponent h.1 h.2 (hrest.head_append hsign hs)
  | case8 isFloat text c s hdigit hunderscore hpoint hexp =>
      have hread : readNumeral isFloat text (c :: s) = ⟨text, isFloat, c :: s⟩ :=
        readNumeral_stop hdigit hunderscore hpoint hexp
      refine .stop (by rw [hread]) fun rest' hrest => ?_
      rw [hread]
      cases hrest with
      | cut => exact readNumeral_blanks (by simp [Blanks])
      | @blanks w hw =>
          refine readNumeral_stop hdigit hunderscore ?_ hexp
          rintro ⟨hc, hfloat, hall⟩
          refine hpoint ⟨hc, hfloat, ?_⟩
          cases s with
          | nil => rfl
          | cons x s => exact hall

end Numerals

/-! ### Tokens -/

section Tokens

variable {m : Mark} {cs : List Char}

theorem readMark_eq_none_of_not_single (h : isSingle c = false) : readMark (c :: s) = none := by
  refine Option.eq_none_iff_forall_ne_some.mpr fun ⟨m, rest⟩ hmark => ?_
  rw [single_of_readMark hmark] at h
  cases h

theorem isBlank_of_isSingle (h : isSingle c = true) : isBlank c = false := by
  simp only [isSingle, Bool.and_eq_true, Bool.not_eq_true'] at h
  exact h.1.1.1

theorem isSingle_of_continuesWord (h : continuesWord c = true) : isSingle c = false := by
  simp [isSingle, h]

theorem word_of_isDigit (h : isDigit c = true) : continuesWord c = true ∧ startsWord c = false := by
  have hall : (numeralCharacters.all fun x => !isDigit x || continuesWord x && !startsWord x) = true := by
    decide
  simpa [h] using List.all_eq_true.mp hall c (mem_numeralCharacters_of_isDigit h)

/-- The text begins with a digit, or with a point and a digit. -/
abbrev StartsNumeral (c : Char) (s : List Char) : Prop :=
  isDigit c = true ∨ c = '.' ∧ s.head?.any isDigit = true

theorem Lexeme.read_of_mark (h : readMark (c :: s) = some (m, rest)) :
    Lexeme.read column c s = .ok (.mark m, rest) := by
  unfold Lexeme.read
  rw [h]

theorem Lexeme.read_of_quoted (hc : c = '"' ∨ c = '\'') (h : readQuoted c s = some (cs, rest)) :
    Lexeme.read column c s = .ok (.str (String.ofList cs), rest) := by
  have hmark : readMark (c :: s) = none := by
    refine readMark_eq_none_of_not_single ?_
    rcases hc with rfl | rfl <;> decide
  unfold Lexeme.read
  simp only [hmark, if_pos hc, h]

theorem readMark_of_startsNumeral (hc : StartsNumeral c s) : readMark (c :: s) = none := by
  rcases hc with hc | ⟨rfl, -⟩
  · exact readMark_eq_none_of_not_single (isSingle_of_continuesWord (word_of_isDigit hc).1)
  · rfl

theorem not_quote_of_startsNumeral (hc : StartsNumeral c s) : ¬(c = '"' ∨ c = '\'') := by
  rcases hc with hc | ⟨rfl, -⟩
  · exact (numeralCharacter_notBlank c (mem_numeralCharacters_of_isDigit hc)).2
  · decide

theorem Lexeme.read_of_numeral (hc : StartsNumeral c s)
    (h : (readNumeral (c == '.') [c] s).lexeme? = some k) :
    Lexeme.read column c s = .ok (k, (readNumeral (c == '.') [c] s).rest) := by
  unfold Lexeme.read
  simp only [readMark_of_startsNumeral hc, if_neg (not_quote_of_startsNumeral hc)]
  rw [if_pos hc, h]

theorem Lexeme.read_of_invalid (hc : StartsNumeral c s)
    (h : (readNumeral (c == '.') [c] s).lexeme? = none) :
    ∃ e, Lexeme.read column c s = .error e := by
  refine ⟨.parse column (.invalidNumber (String.ofList (readNumeral (c == '.') [c] s).text)), ?_⟩
  unfold Lexeme.read
  simp only [readMark_of_startsNumeral hc, if_neg (not_quote_of_startsNumeral hc)]
  rw [if_pos hc, h]

theorem Lexeme.read_of_word (hc : startsWord c = true) :
    Lexeme.read column c s =
      .ok (wordLexeme (String.ofList (c :: s.takeWhile continuesWord)), s.dropWhile continuesWord) := by
  have hmark : readMark (c :: s) = none :=
    readMark_eq_none_of_not_single (isSingle_of_continuesWord (continuesWord_of_startsWord hc))
  have hquote : ¬(c = '"' ∨ c = '\'') := by
    rintro (rfl | rfl) <;> exact absurd hc (by decide)
  have hnumeral : ¬StartsNumeral c s := by
    rintro (hdigit | ⟨rfl, -⟩)
    · exact absurd hc (by simp [(word_of_isDigit hdigit).2])
    · exact absurd hc (by decide)
  unfold Lexeme.read
  simp only [hmark, if_neg hquote]
  rw [if_neg hnumeral, if_pos hc]

theorem Lexeme.read_of_operator (hmark : readMark (c :: s) = none) (hquote : ¬(c = '"' ∨ c = '\''))
    (hnumeral : ¬StartsNumeral c s) (hword : startsWord c = false)
    (h : readOperator foreignOperators (c :: s) = some (k, rest)) :
    Lexeme.read column c s = .ok (k, rest) := by
  unfold Lexeme.read
  simp only [hmark, if_neg hquote]
  rw [if_neg hnumeral, if_neg (by simp [hword]), h]

/-- The characters `c :: u`, before `rest`, are the token `k`: they are read again where what
follows is loosened.  Where they end in a point, only an operator is read again before blanks at the
end of the text. -/
structure Stands (c : Char) (u rest : List Char) (k : Lexeme) : Prop where
  solid : ∀ x ∈ (c :: u).getLast?, isBlank x = false
  again : ∀ column rest', Loosened rest rest' →
    (rest = [] → rest' ≠ [] → '.' ∈ (c :: u).getLast? → ∃ o, k = .operator o) →
    Lexeme.read column c (u ++ rest') = .ok (k, rest')

theorem Stands.of_mark (h : readMark (c :: s) = some (m, rest)) :
    ∃ u, s = u ++ rest ∧ Stands c u rest (.mark m) := by
  have htext := readMark_eq_some h
  obtain ⟨d, u, hu⟩ : ∃ d u, m.text.toList = d :: u :=
    List.exists_cons_of_ne_nil (by cases m <;> decide)
  rw [hu] at htext
  cases htext
  refine ⟨u, rfl, fun x hx => ?_, fun column rest' hrest _ => ?_⟩
  · exact isBlank_of_isSingle (single_of_mark m x (hu ▸ List.mem_of_getLast? hx))
  · refine Lexeme.read_of_mark ?_
    rw [← List.cons_append, ← hu]
    exact readMark_loosened h hrest

theorem Stands.of_quoted (hc : c = '"' ∨ c = '\'') (h : readQuoted c s = some (cs, rest)) :
    ∃ u, s = u ++ rest ∧ Stands c u rest (.str (String.ofList cs)) := by
  obtain ⟨u, rfl, hagain⟩ := readQuoted_again h
  refine ⟨u ++ [c], by simp, fun x hx => ?_, fun column rest' _ _ => ?_⟩
  · rw [← List.cons_append, List.getLast?_concat] at hx
    cases hx
    rcases hc with rfl | rfl <;> decide
  · rw [List.append_assoc]
    exact Lexeme.read_of_quoted hc (hagain rest')

theorem Stands.of_word (hc : startsWord c = true) :
    Stands c (s.takeWhile continuesWord) (s.dropWhile continuesWord)
      (wordLexeme (String.ofList (c :: s.takeWhile continuesWord))) := by
  have hword : ∀ x ∈ s.takeWhile continuesWord, continuesWord x = true :=
    fun x hx => List.mem_takeWhile_imp hx
  refine ⟨fun x hx => eq_false_of_ne_true fun hblank => ?_, fun column rest' hrest _ => ?_⟩
  · have hall : ∀ x ∈ c :: s.takeWhile continuesWord, continuesWord x = true :=
      List.forall_mem_cons.mpr ⟨continuesWord_of_startsWord hc, hword⟩
    have hx := hall x (List.mem_of_getLast? hx)
    rw [continuesWord_of_isBlank hblank] at hx
    cases hx
  · have hhead : ∀ x ∈ rest'.head?, continuesWord x = false := by
      refine hrest.head (fun x => continuesWord_of_isBlank) fun x hx => ?_
      have := List.head?_dropWhile_not continuesWord s
      rw [Option.mem_def.mp hx] at this
      exact this
    have htake := takeWhile_append_of_head hhead (s.takeWhile continuesWord)
    have hdrop := dropWhile_append_of_head hhead (s.takeWhile continuesWord)
    rw [List.takeWhile_idem] at htake
    rw [List.dropWhile_eq_nil_iff.mpr hword, List.nil_append] at hdrop
    rw [Lexeme.read_of_word hc, htake, hdrop]

theorem NumeralText.lexeme?_cases {n : NumeralText} (h : n.lexeme? = some k) :
    (n.isFloat = false ∧ ∃ i, k = .int i) ∨ (n.isFloat = true ∧ ∃ x, k = .float x) := by
  unfold NumeralText.lexeme? at h
  split at h
  · cases h
  · split at h
    · next hfloat =>
      obtain ⟨x, -, rfl⟩ := Option.map_eq_some_iff.mp h
      exact .inr ⟨hfloat, x, rfl⟩
    · next hfloat =>
      obtain ⟨i, -, rfl⟩ := Option.map_eq_some_iff.mp h
      exact .inl ⟨eq_false_of_ne_true hfloat, i, rfl⟩

theorem NumeralText.lexeme?_rest {n : NumeralText} (h : n.lexeme? = some k)
    (hrest : ∀ x ∈ rest'.head?, startsWord x = false) :
    ({ n with rest := rest' } : NumeralText).lexeme? = some k := by
  have hnone : ¬rest'.head?.any startsWord = true := by
    rw [(Option.any_eq_false _ _).mpr hrest]
    exact Bool.false_ne_true
  unfold NumeralText.lexeme? at h ⊢
  split at h
  · cases h
  · rw [if_neg hnone]
    exact h

theorem isDigit_of_isBlank (h : isBlank c = true) : isDigit c = false :=
  eq_false_of_ne_true fun hdigit => by
    have := (word_of_isDigit hdigit).1
    rw [continuesWord_of_isBlank h] at this
    cases this

theorem startsWord_of_isBlank (h : isBlank c = true) : startsWord c = false :=
  eq_false_of_ne_true fun hstart => by
    have := continuesWord_of_startsWord hstart
    rw [continuesWord_of_isBlank h] at this
    cases this

theorem Stands.of_numeral (hc : StartsNumeral c s)
    (h : (readNumeral (c == '.') [c] s).lexeme? = some k) :
    ∃ u, s = u ++ (readNumeral (c == '.') [c] s).rest ∧
      Stands c u (readNumeral (c == '.') [c] s).rest k := by
  obtain ⟨u, hs, hu, hagain⟩ := readNumeral_resumes (c == '.') [c] s
  have hdigit := readNumeral_head (c == '.') [c] s
  generalize readNumeral (c == '.') [c] s = n at *
  have hfirst : c ∈ numeralCharacters := by
    rcases hc with hc | ⟨rfl, -⟩
    · exact mem_numeralCharacters_of_isDigit hc
    · decide
  refine ⟨u, hs, fun x hx => ?_, fun column rest' hrest hpoint => ?_⟩
  · have hx := List.forall_mem_cons.mpr ⟨hfirst, hu⟩ x (List.mem_of_getLast? hx)
    exact (numeralCharacter_notBlank x hx).1
  · have hstarts : StartsNumeral c (u ++ rest') := by
      refine hc.imp_right fun ⟨hdot, hhead⟩ => ⟨hdot, ?_⟩
      cases u with
      | cons x u => rwa [hs] at hhead
      | nil =>
          rw [hs, List.nil_append] at hhead
          rw [(Option.any_eq_false _ _).mpr hdigit] at hhead
          cases hhead
    have hread := hagain rest' hrest fun hnil hlast => by
      by_contra hne
      rw [hs, hnil, List.append_nil] at hlast
      obtain ⟨o, rfl⟩ := hpoint hnil hne (List.mem_getLast?_cons hlast)
      rcases NumeralText.lexeme?_cases h with ⟨-, i, hi⟩ | ⟨-, x, hx⟩
      · cases hi
      · cases hx
    have hlexeme : (readNumeral (c == '.') [c] (u ++ rest')).lexeme? = some k := by
      rw [hread]
      exact NumeralText.lexeme?_rest h
        (hrest.head (fun x => startsWord_of_isBlank) (NumeralText.head_startsWord h))
    rw [Lexeme.read_of_numeral hstarts hlexeme, hread]

/-- A mark that would go on after an operator does not come about. -/
theorem readMark_operator_loosened {o : String} (ho : o ∈ foreignOperators)
    (h : readMark (o.toList ++ rest) = none) (hrest : Loosened rest rest') :
    readMark (o.toList ++ rest') = none := by
  have hnone : ∀ o ∈ foreignOperators, readMark o.toList = none := by decide
  refine Option.eq_none_iff_forall_ne_some.mpr fun ⟨m, r⟩ hmark => ?_
  obtain ⟨htext, hbarred⟩ := readMark_eq_some_iff.mp hmark
  rcases List.append_eq_append_iff.mp htext with ⟨b, hm, hr⟩ | ⟨a, hm, hr⟩
  · cases b with
    | nil =>
        rw [List.append_nil] at hm
        have hself : readMark o.toList = some (m, []) :=
          readMark_eq_some_iff.mpr ⟨by rw [hm, List.append_nil], by simp⟩
        cases (hnone o ho).symm.trans hself
    | cons x b =>
        -- the mark is longer than the operator, and no character is barred after it
        have hfree : m.barred = [] := by
          refine Mark.barred_of_long m ?_
          have := List.length_pos_iff.mpr (foreignOperators_ne_nil o ho)
          simp only [hm, List.length_append, List.length_cons]
          omega
        have hblank : ∀ x ∈ m.text.toList, isBlank x = false := fun x hx =>
          isBlank_of_isSingle (single_of_mark m x hx)
        obtain ⟨r', hr'⟩ : m.text.toList <+: o.toList ++ rest :=
          hrest.prefix_append hblank ⟨r, htext.symm⟩
        have hself : readMark (o.toList ++ rest) = some (m, r') :=
          readMark_eq_some_iff.mpr ⟨hr'.symm, by simp [hfree]⟩
        cases h.symm.trans hself
  · have hself : readMark o.toList = some (m, a) := by
      refine readMark_eq_some_iff.mpr ⟨hm, fun x hx => hbarred x ?_⟩
      rw [hr]
      exact List.mem_head?_append_of_mem_head? hx
    cases (hnone o ho).symm.trans hself

theorem Stands.of_operator (hmark : readMark (c :: s) = none) (hquote : ¬(c = '"' ∨ c = '\''))
    (hnumeral : ¬StartsNumeral c s) (hword : startsWord c = false)
    (h : readOperator foreignOperators (c :: s) = some (k, rest)) :
    ∃ u, s = u ++ rest ∧ Stands c u rest k := by
  obtain ⟨o, ho, rfl, htext, hagain⟩ := readOperator_loosened foreignOperators_notBlank h
  obtain ⟨d, u, hu⟩ := List.exists_cons_of_ne_nil (foreignOperators_ne_nil o ho)
  rw [htext] at hmark
  rw [hu] at htext
  cases htext
  refine ⟨u, rfl, fun x hx => ?_, fun column rest' hrest _ => ?_⟩
  · exact foreignOperators_notBlank o ho x (hu ▸ List.mem_of_getLast? hx)
  · have hmark' := readMark_operator_loosened ho hmark hrest
    have hread := hagain rest' hrest
    rw [hu, List.cons_append] at hmark' hread
    refine Lexeme.read_of_operator hmark' hquote ?_ hword hread
    rintro (hdigit | ⟨hdot, hdigit⟩)
    · exact hnumeral (.inl hdigit)
    · have hnone : (u ++ rest).head?.any isDigit = false :=
        eq_false_of_ne_true fun hsome => hnumeral (.inr ⟨hdot, hsome⟩)
      have hnone' := hrest.head_append (fun x => isDigit_of_isBlank)
        ((Option.any_eq_false _ _).mp hnone)
      rw [(Option.any_eq_false _ _).mpr hnone'] at hdigit
      cases hdigit

/-- **A token stands by itself.**  What is read off a text is read off it again where what follows is
loosened. -/
theorem Lexeme.read_stands (h : Lexeme.read column c s = .ok (k, rest)) :
    ∃ u, s = u ++ rest ∧ Stands c u rest k := by
  unfold Lexeme.read at h
  split at h
  · next hmark =>
    cases h
    exact Stands.of_mark hmark
  · next hmark =>
    split at h
    · next hquote =>
      split at h
      · next hread =>
        cases h
        exact Stands.of_quoted hquote hread
      · cases h
    · next hquote =>
      split at h
      · next hnumeral =>
        dsimp only at h
        split at h
        · next hlexeme =>
          cases h
          exact Stands.of_numeral hnumeral hlexeme
        · cases h
      · next hnumeral =>
        split at h
        · next hstart =>
          cases h
          exact ⟨_, List.takeWhile_append_dropWhile.symm, .of_word hstart⟩
        · next hstart =>
          split at h
          · next hread =>
            cases h
            exact Stands.of_operator hmark hquote hnumeral (eq_false_of_ne_true hstart) hread
          · cases h

end Tokens

end Docket.Expression
