import Docket.Proofs.Expression.Grammar

/-! # Tokens and the text that they are taken off

* `Cut` says what `Lexeme.read` takes off a text, and `Cuts` what `lexFrom` makes of a text with it.
* `pieces` cuts the text outside string literals into words and single characters, without regard to
  tokens.  The words that are kept out are seen there, and the characters that no token of a phrase
  has.  Where no token is foreign, no piece is (`Cuts.pieces_notMem`). -/

namespace Docket.Expression

open Text

/-! ### Tokens of a text -/

/-- What may be taken off a text that begins with the character `c`. -/
inductive Cut (c : Char) (s : List Char) : Lexeme → List Char → Prop
  | mark {m : Mark} {rest : List Char} :
      readMark (c :: s) = some (m, rest) → Cut c s (.mark m) rest
  | str {cs rest : List Char} :
      c = '"' ∨ c = '\'' → readQuoted c s = some (cs, rest) → Cut c s (.str (String.ofList cs)) rest
  | numeral {k : Lexeme} :
      isDigit c = true ∨ c = '.' → (readNumeral (c == '.') [c] s).lexeme? = some k →
      Cut c s k (readNumeral (c == '.') [c] s).rest
  | word :
      ¬(c = '"' ∨ c = '\'') → startsWord c = true →
      Cut c s (wordLexeme (String.ofList (c :: s.takeWhile continuesWord)))
        (s.dropWhile continuesWord)
  | foreign {o : String} {rest : List Char} : Cut c s (.operator o) rest

variable {column total : ℕ} {c : Char} {s rest : List Char} {k : Lexeme} {ts : List Token}

theorem readOperator_eq_some {operators : List String}
    (h : readOperator operators s = some (k, rest)) : ∃ o, k = .operator o := by
  induction operators with
  | nil => cases h
  | cons o os ih =>
      unfold readOperator at h
      split at h
      · cases h
        exact ⟨o, rfl⟩
      · exact ih h

theorem Lexeme.read_cut (h : Lexeme.read column c s = .ok (k, rest)) : Cut c s k rest := by
  unfold Lexeme.read at h
  split at h
  · next hmark =>
    cases h
    exact .mark hmark
  · split at h
    · next hquote =>
      split at h
      · next hread =>
        cases h
        exact .str hquote hread
      · cases h
    · next hquote =>
      split at h
      · next hdigit =>
        dsimp only at h
        split at h
        · next hnumeral =>
          cases h
          exact .numeral (hdigit.imp_right And.left) hnumeral
        · cases h
      · split at h
        · next hstart =>
          cases h
          exact .word hquote hstart
        · split at h
          · next hread =>
            cases h
            obtain ⟨o, rfl⟩ := readOperator_eq_some hread
            exact .foreign
          · cases h

theorem NumeralText.lexeme?_ne_stop {n : NumeralText} : n.lexeme? ≠ some .stop := by
  unfold NumeralText.lexeme?
  split
  · simp
  · split <;> simp

theorem wordLexeme_ne_stop (word : String) : wordLexeme word ≠ .stop := by
  unfold wordLexeme
  split
  · simp
  · split <;> simp

theorem Cut.ne_stop (h : Cut c s k rest) : k ≠ .stop := by
  cases h with
  | mark | str | foreign => simp
  | numeral _ hnumeral =>
      rintro rfl
      exact NumeralText.lexeme?_ne_stop hnumeral
  | word => exact wordLexeme_ne_stop _

/-- The tokens of a text, one after the other, and the end of the source. -/
inductive Cuts (total : ℕ) : List Char → List Token → Prop
  | stop {s : List Char} : s.dropWhile isBlank = [] → Cuts total s [⟨.stop, total⟩]
  | token {s r rest : List Char} {c : Char} {k : Lexeme} {column : ℕ} {ts : List Token} :
      s.dropWhile isBlank = c :: r → Cut c r k rest → Cuts total rest ts →
      Cuts total s (⟨k, column⟩ :: ts)

theorem lexFrom_of_nil (h : s.dropWhile isBlank = []) : lexFrom total s = .ok [⟨.stop, total⟩] := by
  rw [lexFrom]
  split
  · rfl
  · next h' => cases h.symm.trans h'

theorem lexFrom_of_error {r : List Char} {e : Error} (h : s.dropWhile isBlank = c :: r)
    (hread : Lexeme.read (total - (r.length + 1)) c r = .error e) : lexFrom total s = .error e := by
  rw [lexFrom]
  split
  · next h' => cases h.symm.trans h'
  · next h' =>
    cases h.symm.trans h'
    dsimp only
    split
    · next hread' =>
      cases hread.symm.trans hread'
      rfl
    · next hread' => cases hread.symm.trans hread'

theorem lexFrom_of_read {r : List Char} (h : s.dropWhile isBlank = c :: r)
    (hread : Lexeme.read (total - (r.length + 1)) c r = .ok (k, rest)) :
    lexFrom total s = (lexFrom total rest).map (⟨k, total - (r.length + 1)⟩ :: ·) := by
  rw [lexFrom]
  split
  · next h' => cases h.symm.trans h'
  · next h' =>
    cases h.symm.trans h'
    dsimp only
    split
    · next hread' => cases hread.symm.trans hread'
    · next hread' =>
      cases hread.symm.trans hread'
      cases lexFrom total rest <;> rfl

theorem lexFrom_cuts (h : lexFrom total s = .ok ts) : Cuts total s ts := by
  fun_induction lexFrom total s generalizing ts with
  | case1 s hs =>
      cases h
      exact .stop hs
  | case2 | case3 => cases h
  | case4 s c r hs column k rest hread us hus =>
      next ih =>
      cases h
      exact .token hs (Lexeme.read_cut hread) (ih hus)

/-- **The tokens of a text come to an end once.** -/
theorem Cuts.stop_last (h : Cuts total s ts) :
    ∃ us, ts = us ++ [⟨.stop, total⟩] ∧ ∀ t ∈ us, t.lexeme ≠ .stop := by
  induction h with
  | stop => exact ⟨[], rfl, by simp⟩
  | token _ hcut _ ih =>
      obtain ⟨us, rfl, hus⟩ := ih
      exact ⟨_ :: us, rfl, List.forall_mem_cons.mpr ⟨hcut.ne_stop, hus⟩⟩

/-! ### Outside string literals -/

/-- The words and the single characters of a text, without blanks and without string literals. -/
def pieces : List Char → List (List Char)
  | [] => []
  | c :: s =>
    if isBlank c then pieces s
    else if c = '"' ∨ c = '\'' then
      match _h : readQuoted c s with
      | some (_, rest) => pieces rest
      | none => [c :: s]
    else if continuesWord c then
      (c :: s.takeWhile continuesWord) :: pieces (s.dropWhile continuesWord)
    else [c] :: pieces s
termination_by s => s.length
decreasing_by
  · simp
  · have := readQuoted_lt _h
    simp only [List.length_cons]
    omega
  · have := dropWhile_le continuesWord s
    simp only [List.length_cons]
    omega
  · simp

/-- The characters that no token of a phrase has, outside string literals. -/
def foreignCharacters : List Char :=
  [':', '*', '/', '%', '@', '&', '|', '^', '~', '\x7b', '\x7d', ';', '$', '?', '\x60']

/-- The pieces that the language keeps out. -/
def foreignPieces : List (List Char) :=
  reservedWords.map String.toList ++ foreignCharacters.map fun c => [c]

def numeralCharacters : List Char :=
  ['0', '1', '2', '3', '4', '5', '6', '7', '8', '9', '_', '.', 'e', 'E', '+', '-']

/-- Whether a character is a piece by itself wherever it stands outside string literals. -/
def isSingle (c : Char) : Bool := !isBlank c && c != '"' && c != '\'' && !continuesWord c

theorem pieces_dropWhile (s : List Char) : pieces (s.dropWhile isBlank) = pieces s := by
  induction s with
  | nil => rfl
  | cons c s ih =>
      by_cases hc : isBlank c = true
      · rw [List.dropWhile_cons_of_pos hc, ih, pieces, if_pos hc]
      · rw [List.dropWhile_cons_of_neg hc]

theorem pieces_of_quote (hblank : isBlank c = false) (hquote : c = '"' ∨ c = '\'')
    {cs : List Char} (hread : readQuoted c s = some (cs, rest)) :
    pieces (c :: s) = pieces rest := by
  rw [pieces, if_neg (by simp [hblank]), if_pos hquote]
  split
  · next h =>
    cases h.symm.trans hread
    rfl
  · next h => cases h.symm.trans hread

theorem pieces_of_word (hblank : isBlank c = false) (hquote : ¬(c = '"' ∨ c = '\''))
    (hword : continuesWord c = true) :
    pieces (c :: s) = (c :: s.takeWhile continuesWord) :: pieces (s.dropWhile continuesWord) := by
  rw [pieces, if_neg (by simp [hblank]), if_neg hquote, if_pos hword]

theorem pieces_of_single (h : isSingle c = true) : pieces (c :: s) = [c] :: pieces s := by
  simp only [isSingle, Bool.and_eq_true, Bool.not_eq_true', bne_iff_ne] at h
  obtain ⟨⟨⟨hblank, hdouble⟩, hquote⟩, hword⟩ := h
  rw [pieces, if_neg (by simp [hblank]), if_neg (by simp [hdouble, hquote]),
    if_neg (by simp [hword])]

theorem pieces_append_of_single {cs : List Char} (h : ∀ x ∈ cs, isSingle x = true) :
    pieces (cs ++ rest) = cs.map (fun x => [x]) ++ pieces rest := by
  induction cs with
  | nil => rfl
  | cons x cs ih =>
      obtain ⟨hx, hcs⟩ := List.forall_mem_cons.mp h
      rw [List.cons_append, pieces_of_single hx, ih hcs]
      rfl

/-! ### Marks, words and numerals -/

theorem readMark_eq_some {m : Mark} (h : readMark s = some (m, rest)) :
    s = m.text.toList ++ rest := by
  unfold readMark at h
  split at h <;> (try split at h) <;> cases h <;> rfl

theorem single_of_mark (m : Mark) : ∀ x ∈ m.text.toList, isSingle x = true :=
  List.all_eq_true.mp (by cases m <;> decide)

theorem mark_notMem_foreignPieces {m : Mark} (h : m ≠ .colon) :
    ∀ x ∈ m.text.toList, [x] ∉ foreignPieces := by
  have hall : (m.text.toList.all fun x => !foreignPieces.contains [x]) = true := by
    cases m <;> first | exact absurd rfl h | decide
  simpa using hall

theorem foreignCharacter_notContinuesWord :
    ∀ x ∈ foreignCharacters, continuesWord x = false := by
  have hall : (foreignCharacters.all fun x => !continuesWord x) = true := by decide
  simpa using hall

theorem Keyword.notMem_reservedWords : ∀ word ∈ Keyword.list, word.text ∉ reservedWords := by
  decide

theorem word_notMem_foreignPieces {w : List Char} (hword : continuesWord c = true)
    (h : (wordLexeme (String.ofList (c :: w))).isForeign = false) : c :: w ∉ foreignPieces := by
  have hreserved : String.ofList (c :: w) ∉ reservedWords := by
    unfold wordLexeme at h
    split at h
    · next word heq =>
      have hfind := List.find?_some heq
      rw [← eq_of_beq hfind]
      exact Keyword.notMem_reservedWords word (List.mem_of_find?_eq_some heq)
    · split at h
      · cases h
      · next hno => exact hno
  intro hmem
  rcases List.mem_append.mp hmem with hmem | hmem
  · obtain ⟨word, hin, heq⟩ := List.mem_map.mp hmem
    rw [← heq, String.ofList_toList] at hreserved
    exact hreserved hin
  · obtain ⟨x, hin, heq⟩ := List.mem_map.mp hmem
    cases heq
    exact absurd hword (by simp [foreignCharacter_notContinuesWord c hin])

theorem numeral_notMem_foreignPieces {p : List Char} (h : ∀ x ∈ p, x ∈ numeralCharacters) :
    p ∉ foreignPieces := by
  have hall : (foreignPieces.all fun q => q.any fun x => !numeralCharacters.contains x) = true := by
    decide
  intro hp
  obtain ⟨x, hx, hno⟩ := List.any_eq_true.mp (List.all_eq_true.mp hall p hp)
  exact absurd (h x hx) (by simpa using hno)

theorem mem_numeralCharacters_of_isDigit (h : isDigit c = true) : c ∈ numeralCharacters := by
  have hcodes : ∀ n < 58, 48 ≤ n → Char.ofNat n ∈ numeralCharacters := by decide
  simp only [isDigit, Bool.and_eq_true, decide_eq_true_eq, Char.le_def, UInt32.le_iff_toNat_le] at h
  have hchar := hcodes c.toNat (Nat.lt_succ_of_le h.2) h.1
  rwa [Char.ofNat_toNat] at hchar

theorem continuesWord_of_isBlank (h : isBlank c = true) : continuesWord c = false := by
  have hcodes : ∀ r ∈ blankRanges, ∀ n ∈ List.range' r.1 (r.2 - r.1 + 1),
      continuesWord (Char.ofNat n) = false := by decide +kernel
  simp only [isBlank, List.any_eq_true, Bool.and_eq_true, decide_eq_true_eq] at h
  obtain ⟨r, hr, hlow, hhigh⟩ := h
  have hchar := hcodes r hr c.toNat (List.mem_range'_1.mpr ⟨hlow, by omega⟩)
  rwa [Char.ofNat_toNat] at hchar

/-- Nothing but characters of numerals comes before the rest of the text. -/
def IsAfterNumeral (s rest : List Char) : Prop :=
  ∃ u, s = u ++ rest ∧ ∀ x ∈ u, x ∈ numeralCharacters

theorem IsAfterNumeral.refl (s : List Char) : IsAfterNumeral s s := ⟨[], rfl, by simp⟩

theorem IsAfterNumeral.cons (hc : c ∈ numeralCharacters) (h : IsAfterNumeral s rest) :
    IsAfterNumeral (c :: s) rest := by
  obtain ⟨u, rfl, hu⟩ := h
  exact ⟨c :: u, rfl, List.forall_mem_cons.mpr ⟨hc, hu⟩⟩

theorem readNumeral_isAfterNumeral (isFloat : Bool) (text s : List Char) :
    IsAfterNumeral s (readNumeral isFloat text s).rest := by
  have hexponent : ∀ {c : Char}, c = 'e' ∨ c = 'E' → c ∈ numeralCharacters := by
    rintro _ (rfl | rfl) <;> decide
  fun_induction readNumeral isFloat text s with
  | case1 => exact .refl _
  | case2 _ _ _ _ hc ih => exact ih.cons (mem_numeralCharacters_of_isDigit hc)
  | case3 _ _ _ _ ih => exact ih.cons (by decide)
  | case4 _ _ _ _ _ _ hc ih => exact ih.cons (by rw [hc.1]; decide)
  | case5 _ _ _ _ _ hc _ _ ih => exact (ih.cons (by decide)).cons (hexponent hc.1)
  | case6 _ _ _ _ _ hc _ _ ih => exact (ih.cons (by decide)).cons (hexponent hc.1)
  | case7 _ _ _ _ _ hc _ _ _ _ ih => exact ih.cons (hexponent hc.1)
  | case8 => exact .refl _

theorem readNumeral_head (isFloat : Bool) (text s : List Char) :
    ∀ x ∈ (readNumeral isFloat text s).rest.head?, isDigit x = false := by
  fun_induction readNumeral isFloat text s with
  | case1 => simp
  | case8 _ _ _ _ hc => simpa using hc
  | _ => assumption

theorem numeralCharacter_notBlank :
    ∀ x ∈ numeralCharacters, isBlank x = false ∧ ¬(x = '"' ∨ x = '\'') := by
  have hall : (numeralCharacters.all fun x => !isBlank x && !(x == '"' || x == '\'')) = true := by
    decide
  simpa using hall

theorem takeWhile_append_of_head {p : Char → Bool} (h : ∀ x ∈ rest.head?, p x = false)
    (s : List Char) : (s ++ rest).takeWhile p = s.takeWhile p := by
  have hrest : rest.takeWhile p = [] := by
    cases rest with
    | nil => rfl
    | cons x rest => exact List.takeWhile_cons_of_neg (by simp [h x rfl])
  rw [List.takeWhile_append, hrest]
  split
  · next hlength => rw [List.append_nil, (List.takeWhile_prefix _).eq_of_length hlength]
  · rfl

theorem dropWhile_append_of_head {p : Char → Bool} (h : ∀ x ∈ rest.head?, p x = false)
    (s : List Char) : (s ++ rest).dropWhile p = s.dropWhile p ++ rest := by
  have hrest : rest.dropWhile p = rest := by
    cases rest with
    | nil => rfl
    | cons x rest => exact List.dropWhile_cons_of_neg (by simp [h x rfl])
  rw [List.dropWhile_append, hrest]
  split
  · next hempty => rw [List.isEmpty_iff.mp hempty, List.nil_append]
  · rfl

/-- Where characters of numerals come before a text that does not go on with a word, their pieces are
made of such characters and the others are those of the text. -/
theorem mem_pieces_numeral (h : IsAfterNumeral s rest)
    (hrest : ∀ x ∈ rest.head?, continuesWord x = false) {p : List Char} (hp : p ∈ pieces s) :
    (∀ x ∈ p, x ∈ numeralCharacters) ∨ p ∈ pieces rest := by
  obtain ⟨u, rfl, hu⟩ := h
  -- on the length, since a piece may take several characters
  induction hn : u.length using Nat.strongRecOn generalizing u with
  | _ n ih =>
    cases u with
    | nil => exact .inr hp
    | cons x v =>
        obtain ⟨hx, hv⟩ := List.forall_mem_cons.mp hu
        obtain ⟨hblank, hquote⟩ := numeralCharacter_notBlank x hx
        rw [List.length_cons] at hn
        by_cases hword : continuesWord x = true
        · rw [List.cons_append, pieces_of_word hblank hquote hword,
            takeWhile_append_of_head hrest, dropWhile_append_of_head hrest] at hp
          rcases List.mem_cons.mp hp with rfl | hp
          · exact .inl (List.forall_mem_cons.mpr
              ⟨hx, fun y hy => hv y ((List.takeWhile_subset _) hy)⟩)
          · have hlt : (v.dropWhile continuesWord).length < n :=
              Nat.lt_of_le_of_lt (dropWhile_le continuesWord v) (by omega)
            exact ih _ hlt _ (fun y hy => hv y ((List.dropWhile_subset _) hy)) hp rfl
        · have hsingle : isSingle x = true := by
            simp only [not_or] at hquote
            simp [isSingle, hblank, hquote, hword]
          rw [List.cons_append, pieces_of_single hsingle] at hp
          rcases List.mem_cons.mp hp with rfl | hp
          · exact .inl (by simpa using hx)
          · exact ih _ (by omega) v hv hp rfl

theorem single_notContinuesWord (h : isSingle c = true) : continuesWord c = false := by
  simp only [isSingle, Bool.and_eq_true, Bool.not_eq_true'] at h
  exact h.2

theorem single_of_readMark {m : Mark} (h : readMark (c :: s) = some (m, rest)) :
    isSingle c = true := by
  have hne : m.text.toList ≠ [] := by cases m <;> decide
  obtain ⟨x, xs, hx⟩ := List.exists_cons_of_ne_nil hne
  have htext := readMark_eq_some h
  rw [hx] at htext
  cases htext
  exact single_of_mark m c (hx ▸ List.mem_cons_self)

theorem Cut.first (h : Cut c s k rest) (hk : k.isForeign = false) (hword : continuesWord c = true) :
    startsWord c = true ∨ isDigit c = true := by
  cases h with
  | mark hmark =>
      exact absurd hword (by simp [single_notContinuesWord (single_of_readMark hmark)])
  | str hquote => rcases hquote with rfl | rfl <;> exact absurd hword (by decide)
  | numeral hdigit =>
      rcases hdigit with hdigit | rfl
      · exact .inr hdigit
      · exact absurd hword (by decide)
  | word _ hstart => exact .inl hstart
  | foreign => cases hk

theorem Cuts.first (h : Cuts total s ts) (hts : ∀ t ∈ ts, t.lexeme.isForeign = false) :
    ∀ x ∈ s.head?, continuesWord x = true → startsWord x = true ∨ isDigit x = true := by
  intro x hx hword
  have hblank : isBlank x = false := eq_false_of_ne_true fun hblank => by
    simp [continuesWord_of_isBlank hblank] at hword
  cases s with
  | nil => cases hx
  | cons y s =>
      cases hx
      have hdrop : (x :: s).dropWhile isBlank = x :: s :=
        List.dropWhile_cons_of_neg (by simp [hblank])
      cases h with
      | stop hs => cases hdrop.symm.trans hs
      | token hs hcut =>
          cases hdrop.symm.trans hs
          exact hcut.first (List.forall_mem_cons.mp hts).1 hword

theorem NumeralText.head_startsWord {n : NumeralText} (h : n.lexeme? = some k) :
    ∀ x ∈ n.rest.head?, startsWord x = false := by
  unfold NumeralText.lexeme? at h
  split at h
  · cases h
  · next hstart =>
    intro x hx
    rw [Option.mem_def.mp hx] at hstart
    simpa using hstart

/-- **Where no token is foreign, no piece of the text is.** -/
theorem Cuts.pieces_notMem (h : Cuts total s ts) (hts : ∀ t ∈ ts, t.lexeme.isForeign = false) :
    ∀ p ∈ pieces s, p ∉ foreignPieces := by
  induction h with
  | stop hs =>
      rw [← pieces_dropWhile, hs]
      simp [pieces]
  | @token s r rest c k column ts hs hcut hrest ih =>
      obtain ⟨hk, hforeign⟩ := List.forall_mem_cons.mp hts
      have ih := ih hforeign
      have hblank : isBlank c = false := by
        have := List.head?_dropWhile_not isBlank s
        simpa [hs] using this
      rw [← pieces_dropWhile, hs]
      cases hcut with
      | @mark m rest hmark =>
          rw [readMark_eq_some hmark, pieces_append_of_single (single_of_mark m)]
          have hm : m ≠ .colon := by
            rintro rfl
            cases hk
          intro p hp
          rcases List.mem_append.mp hp with hp | hp
          · obtain ⟨x, hx, rfl⟩ := List.mem_map.mp hp
            exact mark_notMem_foreignPieces hm x hx
          · exact ih p hp
      | str hquote hread =>
          rw [pieces_of_quote hblank hquote hread]
          exact ih
      | numeral hdigit hnumeral =>
          have hc : c ∈ numeralCharacters := by
            rcases hdigit with hdigit | rfl
            · exact mem_numeralCharacters_of_isDigit hdigit
            · decide
          have hhead :
              ∀ x ∈ (readNumeral (c == '.') [c] r).rest.head?, continuesWord x = false := by
            refine fun x hx => eq_false_of_ne_true fun hword => ?_
            rcases hrest.first hforeign x hx hword with hstart | hisdigit
            · simp [NumeralText.head_startsWord hnumeral x hx] at hstart
            · simp [readNumeral_head _ _ _ x hx] at hisdigit
          intro p hp
          have hnumeral := (readNumeral_isAfterNumeral (c == '.') [c] r).cons hc
          rcases mem_pieces_numeral hnumeral hhead hp with hp | hp
          · exact numeral_notMem_foreignPieces hp
          · exact ih p hp
      | word hquote hstart =>
          have hword := continuesWord_of_startsWord hstart
          rw [pieces_of_word hblank hquote hword]
          intro p hp
          rcases List.mem_cons.mp hp with rfl | hp
          · exact word_notMem_foreignPieces hword hk
          · exact ih p hp
      | foreign => cases hk

end Docket.Expression
