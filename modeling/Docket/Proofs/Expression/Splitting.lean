import Docket.Expression.Template
import Docket.Proofs.Expression.Layout
import Mathlib.Data.String.Basic

/-! # The pieces of a template

`Split` says of a text and a list of pieces that the text is made of them: texts without opening
braces, no two of them side by side, and expressions between braces, with the blanks that were cut
off around them.  It also keeps the place in bytes at which each piece begins.  What `splitFrom`
returns is such a list (`split_of_splitFrom`), and the rest follows from it by induction.

* `Split.written` puts the pieces together again.  The places of the expressions are the lengths in
  bytes of what is written before them.
* `Split.located` shows the braces and the blanks around one expression. -/

namespace Docket.Expression

open Text

variable {a b : Char} {s t l r before after : List Char} {offset : ℕ} {segments : List Segment}

/-! ### Two characters side by side -/

theorem pair_infix_cons_iff {α : Type} {a b c : α} {s : List α} :
    [a, b] <:+: c :: s ↔ (c = a ∧ s.head? = some b) ∨ [a, b] <:+: s := by
  rw [List.infix_cons_iff, List.cons_prefix_cons]
  refine or_congr (and_congr eq_comm ?_) Iff.rfl
  cases s with
  | nil => simp
  | cons d s =>
      rw [List.cons_prefix_cons, and_iff_left List.nil_prefix, List.head?_cons, Option.some.injEq,
        eq_comm]

theorem cut_eq_none_iff : cut a b s = none ↔ ¬[a, b] <:+: s := by
  induction s with
  | nil => simp [cut]
  | cons c s ih =>
      rw [pair_infix_cons_iff]
      cases s with
      | nil => simp [cut]
      | cons d s =>
          by_cases hpair : c = a ∧ d = b
          · simp [cut, hpair]
          · rw [cut, if_neg hpair, Option.map_eq_none_iff, ih, List.head?_cons, Option.some.injEq,
              or_iff_right hpair]

/-- The text before the first place has no such place. -/
theorem cut_before (h : cut a b s = some (before, after)) : ¬[a, b] <:+: before := by
  induction s generalizing before with
  | nil => cases h
  | cons c s ih =>
      cases s with
      | nil => cases h
      | cons d s =>
          rw [cut] at h
          split at h
          · cases h
            simp
          · next hpair =>
            obtain ⟨⟨u, _⟩, hu, heq⟩ := Option.map_eq_some_iff.mp h
            cases heq
            rw [pair_infix_cons_iff]
            rintro (⟨rfl, hb⟩ | hinfix)
            · have htext := cut_append hu
              obtain ⟨u, rfl⟩ := List.head?_eq_some_iff.mp hb
              exact hpair ⟨rfl, (List.cons.inj htext).1⟩
            · exact ih hu hinfix

/-! ### Without the blanks around it -/

theorem trim_eq (s : List Char) : trim s = (s.dropWhile isBlank).rdropWhile isBlank := rfl

theorem exists_trim (s : List Char) : ∃ l r, Blanks l ∧ Blanks r ∧ s = l ++ trim s ++ r := by
  refine ⟨s.takeWhile isBlank, (s.dropWhile isBlank).rtakeWhile isBlank,
    fun x hx => List.mem_takeWhile_imp hx, fun x hx => List.mem_rtakeWhile_imp hx, ?_⟩
  rw [trim_eq, List.append_assoc, List.rdropWhile_append_rtakeWhile,
    List.takeWhile_append_dropWhile]

theorem trim_trim (s : List Char) : trim (trim s) = trim s := by
  have hhead : ∀ x ∈ (trim s).head?, isBlank x = false := by
    intro x hx
    obtain ⟨v, hv⟩ := List.rdropWhile_prefix isBlank (s.dropWhile isBlank)
    have hfirst := List.head?_dropWhile_not isBlank s
    rw [← hv, ← trim_eq, List.head?_append, Option.mem_def.mp hx] at hfirst
    exact hfirst
  have hdrop : (trim s).dropWhile isBlank = trim s := by
    cases hs : trim s with
    | nil => rfl
    | cons x v => exact List.dropWhile_cons_of_neg (by simp [hhead x (by rw [hs]; rfl)])
  rw [trim_eq, hdrop, trim_eq, List.rdropWhile_idempotent]

/-! ### Bytes -/

theorem bytes_eq_utf8ByteSize (s : List Char) : bytes s = (String.ofList s).utf8ByteSize := by
  rw [String.utf8ByteSize_ofList]
  induction s with
  | nil => rfl
  | cons c s ih => rw [bytes, ih, String.utf8Len_cons, Nat.add_comm]

/-! ### Splitting -/

/-- The braces before an expression. -/
abbrev opening : List Char := ['\x7b', '\x7b']

abbrev closing : List Char := ['\x7d', '\x7d']

/-- An expression between braces, with blanks around it. -/
def placed (l source r : List Char) : List Char := opening ++ l ++ source ++ r ++ closing

/-- What may stand between braces: something that is trimmed, and has no closing braces in it. -/
structure IsSource (source : List Char) : Prop where
  ne_nil : source ≠ []
  trimmed : trim source = source
  closed : ¬closing <:+: source

/-- The pieces of a text that begins at the given position. -/
inductive Split : ℕ → List Char → List Segment → Prop
  | nil {offset : ℕ} : Split offset [] []
  | text {offset : ℕ} {t s : List Char} {segments : List Segment} :
      t ≠ [] → ¬opening <:+: t → (∀ x, .text x ∉ segments.head?) →
      Split (offset + bytes t) s segments →
      Split offset (t ++ s) (.text (String.ofList t) :: segments)
  | placeholder {offset : ℕ} {l source r s : List Char} {segments : List Segment} :
      Blanks l → Blanks r → IsSource source →
      Split (offset + bytes (placed l source r)) s segments →
      Split offset (placed l source r ++ s) (.placeholder (String.ofList source) offset :: segments)

/-- Text without opening braces before an expression is a piece, if there is any. -/
theorem Split.prepend (h : Split (offset + bytes t) s segments) (ht : ¬opening <:+: t)
    (hfirst : ∀ x, .text x ∉ segments.head?) :
    Split offset (t ++ s) (if t.isEmpty then segments else .text (String.ofList t) :: segments) := by
  cases t with
  | nil => exact h
  | cons c t => exact .text (by simp) ht hfirst h

theorem isSource_trim {inside : List Char} (hne : ¬(trim inside).isEmpty = true)
    (hclosed : ¬closing <:+: inside) : IsSource (trim inside) where
  ne_nil := fun h => hne (by rw [h]; rfl)
  trimmed := trim_trim inside
  closed := by
    intro h
    obtain ⟨l, r, -, -, hinside⟩ := exists_trim inside
    refine hclosed (h.trans ?_)
    exact ⟨l, r, hinside.symm⟩

/-- **A template that is split is made of its pieces.** -/
theorem split_of_splitFrom (h : splitFrom offset s = .ok segments) : Split offset s segments := by
  fun_induction splitFrom offset s generalizing segments with
  | case1 offset s hcut =>
      cases h
      have hlast : Split offset (s ++ []) (if s.isEmpty then [] else [.text (String.ofList s)]) :=
        Split.nil.prepend (cut_eq_none_iff.mp hcut) (by simp)
      rwa [List.append_nil] at hlast
  | case2 | case3 | case4 => cases h
  | case5 offset s before after hopen start inside rest hclose source hne us hus pieces =>
      next ih =>
      cases h
      obtain ⟨l, r, hl, hr, hinside⟩ := exists_trim inside
      have hplaced : placed l (trim inside) r = opening ++ inside ++ closing := by
        calc placed l (trim inside) r = opening ++ (l ++ trim inside ++ r) ++ closing := by
              simp [placed]
          _ = opening ++ inside ++ closing := by rw [← hinside]
      have hbytes : start + bytes (placed l (trim inside) r) = start + 2 + bytes inside + 2 := by
        rw [hplaced, bytes_append, bytes_append, show bytes opening = 2 from rfl,
          show bytes closing = 2 from rfl]
        omega
      have htext : s = before ++ (placed l (trim inside) r ++ rest) := by
        rw [hplaced, cut_append hopen, cut_append hclose]
        simp
      have hrest := ih hus
      rw [← hbytes] at hrest
      have hsource := isSource_trim hne (cut_before hclose)
      rw [htext]
      exact (Split.placeholder hl hr hsource hrest).prepend (cut_before hopen) (by simp)

theorem split_of_splitTemplate {template : String} (h : splitTemplate template = .ok segments) :
    Split 0 template.toList segments := by
  unfold splitTemplate at h
  split at h
  · cases h
  · exact split_of_splitFrom h

/-! ### What the pieces are like -/

/-- How a piece is written in a template. -/
inductive Written : Segment → String → Prop
  | text (t : String) : Written (.text t) t
  | placeholder {l r : String} (source : String) (column : ℕ) : Blanks l.toList → Blanks r.toList →
      Written (.placeholder source column) ("\x7b\x7b" ++ l ++ source ++ r ++ "\x7d\x7d")

theorem ofList_placed (l source r : List Char) :
    String.ofList (placed l source r) = "\x7b\x7b" ++ String.ofList l ++ String.ofList source ++
      String.ofList r ++ "\x7d\x7d" := by
  simp only [placed, String.ofList_append]

theorem written_placed {source : List Char} (hl : Blanks l) (hr : Blanks r) :
    Written (.placeholder (String.ofList source) offset) (String.ofList (placed l source r)) := by
  rw [ofList_placed]
  exact .placeholder _ _ (by rwa [String.toList_ofList]) (by rwa [String.toList_ofList])

namespace Split

/-- **The pieces, as they are written, are the template**, and each expression stands where the
pieces before it end. -/
theorem written (h : Split offset s segments) :
    ∃ pieces, List.Forall₂ Written segments pieces ∧ String.join pieces = String.ofList s ∧
      ∀ n source column, segments[n]? = some (.placeholder source column) →
        column = offset + (String.join (pieces.take n)).utf8ByteSize := by
  induction h with
  | nil => exact ⟨[], .nil, String.join_nil, by simp⟩
  | @text offset t s segments _ _ _ _ ih =>
      obtain ⟨pieces, hwritten, hjoin, hcolumn⟩ := ih
      refine ⟨String.ofList t :: pieces, .cons (.text _) hwritten, ?_, ?_⟩
      · rw [String.join_cons, hjoin, String.ofList_append]
      · rintro (_ | n) source column hn
        · cases hn
        · rw [List.take_succ_cons, String.join_cons, String.utf8ByteSize_append,
            ← bytes_eq_utf8ByteSize, ← Nat.add_assoc]
          exact hcolumn n source column hn
  | @placeholder offset l source r s segments hl hr _ _ ih =>
      obtain ⟨pieces, hwritten, hjoin, hcolumn⟩ := ih
      refine ⟨String.ofList (placed l source r) :: pieces, .cons (written_placed hl hr) hwritten,
        ?_, ?_⟩
      · rw [String.join_cons, hjoin, String.ofList_append]
      · rintro (_ | n) source' column hn
        · cases hn
          rfl
        · rw [List.take_succ_cons, String.join_cons, String.utf8ByteSize_append,
            ← bytes_eq_utf8ByteSize, ← Nat.add_assoc]
          exact hcolumn n source' column hn

theorem texts (h : Split offset s segments) {x : String} (hx : .text x ∈ segments) :
    x ≠ "" ∧ ¬opening <:+: x.toList := by
  induction h with
  | nil => cases hx
  | text hne ht _ _ ih =>
      rcases List.mem_cons.mp hx with heq | hx
      · cases heq
        rw [String.toList_ofList]
        exact ⟨by simpa using hne, ht⟩
      · exact ih hx
  | placeholder _ _ _ _ ih => exact ih (List.mem_of_ne_of_mem (by simp) hx)

theorem sources (h : Split offset s segments) {source : String} {column : ℕ}
    (hx : .placeholder source column ∈ segments) : IsSource source.toList := by
  induction h with
  | nil => cases hx
  | text _ _ _ _ ih => exact ih (List.mem_of_ne_of_mem (by simp) hx)
  | placeholder _ _ hsource _ ih =>
      rcases List.mem_cons.mp hx with heq | hx
      · cases heq
        rwa [String.toList_ofList]
      · exact ih hx

/-- An expression stands between its braces where its column says. -/
theorem located {source : String} {start : ℕ} {before after : List Segment}
    (h : Split offset s segments) (hs : segments = before ++ .placeholder source start :: after) :
    ∃ front l r back, s = front ++ placed l source.toList r ++ back ∧ Blanks l ∧ Blanks r ∧
      start = offset + bytes front := by
  induction h generalizing before with
  | nil => simp at hs
  | @text offset t s segments _ _ _ _ ih =>
      cases before with
      | nil => cases hs
      | cons x before =>
          cases hs
          obtain ⟨front, l, r, back, rfl, hl, hr, hstart⟩ := ih rfl
          refine ⟨t ++ front, l, r, back, by simp, hl, hr, ?_⟩
          rw [hstart, bytes_append, Nat.add_assoc]
  | @placeholder offset l source' r s segments hl hr _ _ ih =>
      cases before with
      | nil =>
          cases hs
          exact ⟨[], l, r, s, by rw [String.toList_ofList, List.nil_append], hl, hr, rfl⟩
      | cons x before =>
          cases hs
          obtain ⟨front, l', r', back, rfl, hl', hr', hstart⟩ := ih rfl
          refine ⟨placed l source' r ++ front, l', r', back, by simp, hl', hr', ?_⟩
          rw [hstart, bytes_append, Nat.add_assoc]

theorem apart (h : Split offset s segments) (x y : String) : ¬[.text x, .text y] <:+: segments := by
  induction h with
  | nil => simp
  | text _ _ hfirst _ ih =>
      rw [pair_infix_cons_iff]
      rintro (⟨-, hy⟩ | hinfix)
      · exact hfirst y hy
      · exact ih hinfix
  | placeholder _ _ _ _ ih =>
      rw [pair_infix_cons_iff]
      rintro (⟨hx, -⟩ | hinfix)
      · cases hx
      · exact ih hinfix

end Split

end Docket.Expression
