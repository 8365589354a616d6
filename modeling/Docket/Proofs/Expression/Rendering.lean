import Docket.Proofs.Expression.Caches
import Docket.Proofs.Expression.Splitting
import Mathlib.Data.List.Forall2

/-! # The text of a template

A template that is read keeps its pieces (`Segment.Compiles`), and rendering goes over them in order:
a text shows itself and an expression shows the text of its value (`Segment.Shows`).  So a template
has a text exactly if each of its expressions has a value (`exists_shows_iff`).  One expression with
nothing but blanks beside it is kept apart (`Lone`), as it has the value itself.

`template_lossless` puts this together with what is known of the pieces. -/

namespace Docket.Expression

open Text

variable {rules : Rules} {vars : Variables} {template text : String} {segments : List Segment}
  {parts : List Part}

/-! ### Pieces that were read -/

/-- What is made of a piece when a template is read. -/
inductive Segment.Compiles (rules : Rules) : Segment → Part → Prop
  | text (t : String) : Compiles rules (.text t) (.text t)
  | expr {source : String} {tree : Expression} (column : ℕ) : rules.compile source = .ok tree →
      Compiles rules (.placeholder source column) (.expr source tree)

theorem compiles_of_compileParts (h : rules.compileParts segments = .ok parts) :
    List.Forall₂ (Segment.Compiles rules) segments parts := by
  induction segments generalizing parts with
  | nil =>
      cases h
      exact .nil
  | cons segment segments ih =>
      cases segment with
      | text t =>
          obtain ⟨rest, hrest, hparts⟩ := bind_eq_ok.mp h
          cases hparts
          exact .cons (.text t) (ih hrest)
      | placeholder source column =>
          unfold Rules.compileParts at h
          cases hsource : rules.compile source with
          | error e =>
              rw [hsource] at h
              cases h
          | ok tree =>
              rw [hsource] at h
              obtain ⟨rest, hrest, hparts⟩ := bind_eq_ok.mp h
              cases hparts
              exact .cons (.expr column hsource) (ih hrest)

/-! ### One expression by itself -/

/-- There is one expression, and nothing but blanks beside it. -/
def Lone (segments : List Segment) : Prop :=
  ∃ before source column after, segments = before ++ .placeholder source column :: after ∧
    ∀ x ∈ before ++ after, ∃ t, x = .text t ∧ isBlankText t = true

theorem lone_text_iff {t : String} :
    Lone (.text t :: segments) ↔ isBlankText t = true ∧ Lone segments := by
  constructor
  · rintro ⟨_ | ⟨x, before⟩, source, column, after, heq, hblank⟩
    · cases heq
    · cases heq
      obtain ⟨hfirst, hrest⟩ := List.forall_mem_cons.mp hblank
      obtain ⟨t, heq, ht⟩ := hfirst
      cases heq
      exact ⟨ht, before, source, column, after, rfl, hrest⟩
  · rintro ⟨ht, before, source, column, after, rfl, hblank⟩
    exact ⟨.text t :: before, source, column, after, rfl,
      List.forall_mem_cons.mpr ⟨⟨t, rfl, ht⟩, hblank⟩⟩

theorem lone_placeholder_iff {source : String} {column : ℕ} :
    Lone (.placeholder source column :: segments) ↔
      ∀ x ∈ segments, ∃ t, x = .text t ∧ isBlankText t = true := by
  constructor
  · rintro ⟨_ | ⟨x, before⟩, source', column', after, heq, hblank⟩
    · cases heq
      exact hblank
    · cases heq
      obtain ⟨t, heq, -⟩ := hblank _ List.mem_cons_self
      cases heq
  · intro hblank
    exact ⟨[], source, column, segments, rfl, hblank⟩

theorem blankParts_iff (h : List.Forall₂ (Segment.Compiles rules) segments parts) :
    parts.all soleExpression.isBlankPart = true ↔
      ∀ x ∈ segments, ∃ t, x = .text t ∧ isBlankText t = true := by
  induction h with
  | nil => simp
  | cons hpiece _ ih =>
      rw [List.all_cons, Bool.and_eq_true, ih, List.forall_mem_cons]
      refine and_congr_left fun _ => ?_
      cases hpiece <;> simp [soleExpression.isBlankPart]

theorem soleExpression_eq_none_iff (h : List.Forall₂ (Segment.Compiles rules) segments parts) :
    soleExpression parts = none ↔ ¬Lone segments := by
  induction h with
  | nil =>
      refine iff_of_true rfl ?_
      rintro ⟨before, source, column, after, heq, -⟩
      simp at heq
  | cons hpiece hrest ih =>
      cases hpiece with
      | text t =>
          rw [lone_text_iff, soleExpression]
          split
          · next ht => rw [ih, and_iff_right ht]
          · next ht => exact iff_of_true rfl fun h => ht h.1
      | expr =>
          rw [lone_placeholder_iff, ← blankParts_iff hrest, soleExpression]
          split
          · next hblank => simp [hblank]
          · next hblank => exact iff_of_true rfl hblank

/-! ### The text of the pieces -/

/-- What a piece shows: a text shows itself, and an expression the text of its value. -/
inductive Segment.Shows (value : String → Except Error Json) : Segment → String → Prop
  | text (t : String) : Shows value (.text t) t
  | value {source : String} {v : Json} (column : ℕ) : value source = .ok v →
      Shows value (.placeholder source column) v.text

theorem shows_text_iff {value : String → Except Error Json} {t : String} :
    (Segment.text t).Shows value text ↔ text = t := by
  constructor
  · rintro ⟨⟩
    rfl
  · rintro rfl
    exact .text _

theorem shows_placeholder_iff {value : String → Except Error Json} {source : String} {column : ℕ} :
    (Segment.placeholder source column).Shows value text ↔
      ∃ v, value source = .ok v ∧ text = v.text := by
  constructor
  · rintro (_ | ⟨-, h⟩)
    exact ⟨_, h, rfl⟩
  · rintro ⟨v, h, rfl⟩
    exact .value column h

theorem exists_shows_iff {value : String → Except Error Json} :
    (∃ texts, List.Forall₂ (Segment.Shows value) segments texts) ↔
      ∀ source column, .placeholder source column ∈ segments → ∃ v, value source = .ok v := by
  induction segments with
  | nil => exact iff_of_true ⟨[], .nil⟩ (by simp)
  | cons segment segments ih =>
      constructor
      · rintro ⟨_, hshows⟩ source column hmem
        obtain ⟨text, texts, hfirst, hrest, -⟩ := List.forall₂_cons_left_iff.mp hshows
        rcases List.mem_cons.mp hmem with rfl | hmem
        · obtain ⟨v, hv, -⟩ := shows_placeholder_iff.mp hfirst
          exact ⟨v, hv⟩
        · exact ih.mp ⟨texts, hrest⟩ source column hmem
      · intro h
        obtain ⟨texts, hrest⟩ := ih.mpr fun source column hmem =>
          h source column (List.mem_cons_of_mem _ hmem)
        cases segment with
        | text t => exact ⟨t :: texts, .cons (.text t) hrest⟩
        | placeholder source column =>
            obtain ⟨v, hv⟩ := h source column List.mem_cons_self
            exact ⟨v.text :: texts, .cons (.value column hv) hrest⟩

theorem evaluate_of_compile {source : String} {tree : Expression}
    (h : rules.compile source = .ok tree) :
    rules.evaluate vars source = tree.eval vars rules.functions := by
  unfold Rules.evaluate
  rw [h, ok_bind]

/-- **The pieces of a template are rendered one after the other.** -/
theorem renderParts_eq_ok_iff (h : List.Forall₂ (Segment.Compiles rules) segments parts) :
    renderParts vars rules.functions parts = .ok text ↔
      ∃ texts, List.Forall₂ (Segment.Shows (rules.evaluate vars)) segments texts ∧
        text = String.join texts := by
  induction h generalizing text with
  | nil =>
      rw [renderParts, Except.ok.injEq]
      constructor
      · rintro rfl
        exact ⟨[], .nil, String.join_nil.symm⟩
      · rintro ⟨_, ⟨⟩, rfl⟩
        exact String.join_nil.symm
  | cons hpiece _ ih =>
      cases hpiece with
      | text t =>
          rw [renderParts, bind_eq_ok]
          constructor
          · rintro ⟨rest, hrest, htext⟩
            obtain ⟨texts, hshows, rfl⟩ := ih.mp hrest
            cases htext
            exact ⟨t :: texts, .cons (.text t) hshows, String.join_cons.symm⟩
          · rintro ⟨_, hshows, rfl⟩
            obtain ⟨_, texts, hfirst, hrest, rfl⟩ := List.forall₂_cons_left_iff.mp hshows
            obtain rfl := shows_text_iff.mp hfirst
            rw [String.join_cons]
            exact ⟨_, ih.mpr ⟨texts, hrest, rfl⟩, rfl⟩
      | @expr source tree column htree =>
          rw [renderParts, bind_eq_ok]
          constructor
          · rintro ⟨v, hv, hrest⟩
            obtain ⟨rest, hrest, htext⟩ := bind_eq_ok.mp hrest
            obtain ⟨texts, hshows, rfl⟩ := ih.mp hrest
            cases htext
            have hvalue := (evaluate_of_compile htree).trans hv
            exact ⟨v.text :: texts, .cons (.value column hvalue) hshows, String.join_cons.symm⟩
          · rintro ⟨_, hshows, rfl⟩
            obtain ⟨_, texts, hfirst, hrest, rfl⟩ := List.forall₂_cons_left_iff.mp hshows
            obtain ⟨v, hv, rfl⟩ := shows_placeholder_iff.mp hfirst
            rw [String.join_cons]
            refine ⟨v, (evaluate_of_compile htree).symm.trans hv, ?_⟩
            exact bind_eq_ok.mpr ⟨_, ih.mpr ⟨texts, hrest, rfl⟩, rfl⟩

/-! ### The value of a template -/

theorem Split.plain {offset : ℕ} {s : List Char} (h : Split offset s segments)
    (hs : ¬opening <:+: s) : ∀ x ∈ segments, ∃ t, x = .text t := by
  induction h with
  | nil => simp
  | text _ _ _ _ ih =>
      exact List.forall_mem_cons.mpr ⟨⟨_, rfl⟩,
        ih fun hrest => hs (hrest.trans (List.suffix_append _ _).isInfix)⟩
  | placeholder =>
      refine absurd ?_ hs
      simp only [placed, List.append_assoc]
      exact (List.prefix_append _ _).isInfix

theorem shows_of_written {value : String → Except Error Json} {pieces : List String}
    (h : List.Forall₂ Written segments pieces) (hs : ∀ x ∈ segments, ∃ t, x = .text t) :
    List.Forall₂ (Segment.Shows value) segments pieces := by
  induction h with
  | nil => exact .nil
  | cons hpiece _ ih =>
      obtain ⟨⟨t, rfl⟩, hrest⟩ := List.forall_mem_cons.mp hs
      cases hpiece
      exact .cons (.text _) (ih hrest)

/-- A text without marks of a template is rendered like one with them. -/
theorem renderParts_of_not_isTemplate (hsplit : splitTemplate template = .ok segments)
    (h : List.Forall₂ (Segment.Compiles rules) segments parts) (hplain : isTemplate template = false) :
    renderParts vars rules.functions parts = .ok template := by
  have hs := split_of_splitTemplate hsplit
  have hopening : ¬opening <:+: template.toList := by
    rw [isTemplate, Bool.or_eq_false_iff, Option.isSome_eq_false_iff,
      Option.isNone_iff_eq_none] at hplain
    exact cut_eq_none_iff.mp hplain.1
  obtain ⟨pieces, hwritten, hjoin, -⟩ := hs.written
  rw [String.ofList_toList] at hjoin
  exact (renderParts_eq_ok_iff h).mpr
    ⟨pieces, shows_of_written hwritten (hs.plain hopening), hjoin.symm⟩

theorem render_of_not_lone (hsplit : splitTemplate template = .ok segments)
    (hparts : rules.compileParts segments = .ok parts) (hlone : ¬Lone segments) :
    rules.render vars template = (renderParts vars rules.functions parts).map .str := by
  have hcompiles := compiles_of_compileParts hparts
  unfold Rules.render
  split
  · have htemplate : rules.compileTemplate template = .ok parts := by
      unfold Rules.compileTemplate
      rw [hsplit, ok_bind, hparts]
    rw [htemplate, ok_bind, renderTemplate, (soleExpression_eq_none_iff hcompiles).mpr hlone]
  · next hplain =>
    rw [renderParts_of_not_isTemplate hsplit hcompiles (eq_false_of_ne_true hplain)]
    rfl

theorem render_eq_ok_iff (hsplit : splitTemplate template = .ok segments)
    (hparts : rules.compileParts segments = .ok parts) (hlone : ¬Lone segments) {v : Json} :
    rules.render vars template = .ok v ↔
      ∃ texts, List.Forall₂ (Segment.Shows (rules.evaluate vars)) segments texts ∧
        v = .str (String.join texts) := by
  have htext : ∀ text, renderParts vars rules.functions parts = .ok text ↔
      ∃ texts, List.Forall₂ (Segment.Shows (rules.evaluate vars)) segments texts ∧
        text = String.join texts :=
    fun text => renderParts_eq_ok_iff (compiles_of_compileParts hparts)
  rw [render_of_not_lone hsplit hparts hlone]
  constructor
  · intro h
    cases hrender : renderParts vars rules.functions parts with
    | error e =>
        rw [hrender] at h
        cases h
    | ok text =>
        rw [hrender] at h
        cases h
        obtain ⟨texts, hshows, rfl⟩ := (htext text).mp hrender
        exact ⟨texts, hshows, rfl⟩
  · rintro ⟨texts, hshows, rfl⟩
    rw [(htext _).mpr ⟨texts, hshows, rfl⟩]
    rfl

theorem compileTemplate_eq_ok_iff : rules.compileTemplate template = .ok parts ↔
    ∃ segments, splitTemplate template = .ok segments ∧ rules.compileParts segments = .ok parts :=
  bind_eq_ok

/-- **Nothing of a template is lost.**  Its pieces, as they are written, are the template, and the
column of an expression is the place of its opening braces in bytes.  No text is empty, has opening
braces in it or stands beside another; no source is empty, has blanks around it or has closing
braces in it.  A template that is read, and is more than one expression, has a text if all of its
expressions have values, and this is the text of its pieces. -/
theorem template_lossless (h : splitTemplate template = .ok segments) :
    (∃ pieces, List.Forall₂ Written segments pieces ∧ String.join pieces = template ∧
      ∀ n source column, segments[n]? = some (.placeholder source column) →
        column = (String.join (pieces.take n)).utf8ByteSize) ∧
    (∀ t, .text t ∈ segments → t ≠ "" ∧ ¬opening <:+: t.toList) ∧
    (∀ t t', ¬[.text t, .text t'] <:+: segments) ∧
    (∀ source column, .placeholder source column ∈ segments →
      source ≠ "" ∧ trimText source = source ∧ ¬closing <:+: source.toList) ∧
    ∀ rules ev vars entry, Evaluator.Reads rules ev →
      (ev.compileTemplate template).1 = .ok entry → ¬Lone segments →
      (∀ v, (ev.render vars template).1 = .ok v ↔
        ∃ texts, List.Forall₂ (Segment.Shows fun source => (ev.evaluate vars source).1) segments texts ∧
          v = .str (String.join texts)) ∧
      ((∃ v, (ev.render vars template).1 = .ok v) ↔
        ∀ source column, .placeholder source column ∈ segments →
          ∃ v, (ev.evaluate vars source).1 = .ok v) := by
  have hs := split_of_splitTemplate h
  refine ⟨?_, fun t => hs.texts, hs.apart, fun source column hmem => ?_, ?_⟩
  · obtain ⟨pieces, hwritten, hjoin, hcolumn⟩ := hs.written
    simp only [Nat.zero_add, String.ofList_toList] at hjoin hcolumn
    exact ⟨pieces, hwritten, hjoin, hcolumn⟩
  · have hsource := hs.sources hmem
    refine ⟨?_, ?_, hsource.closed⟩
    · rintro rfl
      exact hsource.ne_nil rfl
    · rw [trimText, hsource.trimmed, String.ofList_toList]
  · intro rules ev vars entry hreads hentry hlone
    have hvalue : (fun source => (ev.evaluate vars source).1) = rules.evaluate vars :=
      funext fun source => (Evaluator.evaluate_reads hreads vars source).1
    have hcompile := (Evaluator.compileTemplate_reads hreads template).1
    rw [hentry] at hcompile
    obtain ⟨segments', hsplit, hparts⟩ := compileTemplate_eq_ok_iff.mp hcompile.symm
    cases h.symm.trans hsplit
    have hrender : ∀ v, (ev.render vars template).1 = .ok v ↔
        ∃ texts, List.Forall₂ (Segment.Shows fun source => (ev.evaluate vars source).1) segments texts ∧
          v = .str (String.join texts) := by
      intro v
      rw [(Evaluator.render_reads hreads vars template).1, hvalue]
      exact render_eq_ok_iff h hparts hlone
    refine ⟨hrender, ?_⟩
    rw [← exists_shows_iff]
    constructor
    · rintro ⟨v, hv⟩
      obtain ⟨texts, hshows, -⟩ := (hrender v).mp hv
      exact ⟨texts, hshows⟩
    · rintro ⟨texts, hshows⟩
      exact ⟨_, (hrender _).mpr ⟨texts, hshows, rfl⟩⟩

namespace Sample

/-- A template with two expressions. -/
def bill : String := "\x7b\x7b 'Ada' \x7d\x7d owes \x7b\x7b5\x7d\x7d"

def billSegments : List Segment :=
  [.placeholder "'Ada'" 0, .text " owes ", .placeholder "5" 17]

/-- What `bill` is read as. -/
def billParts : List Part :=
  [.expr "'Ada'" (.literal (.str "Ada")), .text " owes ", .expr "5" (.literal (.num (.int 5)))]

end Sample

/-- The text of a template with two expressions, which name no variables. -/
theorem template_lossless_sample :
    splitTemplate Sample.bill = .ok Sample.billSegments ∧
    ((Evaluator.ofRules .default 8).render (fun _ => none) Sample.bill).1 =
      .ok (.str "Ada owes 5") := by
  have hsplit : splitTemplate Sample.bill = .ok Sample.billSegments := by decide +kernel
  have hname : Rules.default.compile "'Ada'" = .ok (.literal (.str "Ada")) := by
    have hlex : lex "'Ada'" = .ok [⟨.str "Ada", 0⟩, ⟨.stop, 5⟩] := by decide +kernel
    rw [Rules.compile, parse, hlex]
    rfl
  have hamount : Rules.default.compile "5" = .ok (.literal (.num (.int 5))) := by
    have hlex : lex "5" = .ok [⟨.int 5, 0⟩, ⟨.stop, 1⟩] := by decide +kernel
    rw [Rules.compile, parse, hlex]
    rfl
  have hparts : Rules.default.compileTemplate Sample.bill = .ok Sample.billParts := by
    refine compileTemplate_eq_ok_iff.mpr ⟨_, hsplit, ?_⟩
    simp only [Sample.billSegments, Rules.compileParts, hname, hamount]
    rfl
  have hlone : ¬Lone Sample.billSegments := by
    rw [Sample.billSegments, lone_placeholder_iff]
    intro h
    obtain ⟨t, ht, -⟩ := h (.placeholder "5" 17) (by simp)
    cases ht
  have hreads := Evaluator.ofRules_reads .default 8
  obtain ⟨entry, hentry⟩ := hreads.exists_entry hparts
  obtain ⟨-, -, -, -, hrender⟩ := template_lossless hsplit
  obtain ⟨hvalue, -⟩ := hrender .default _ (fun _ => none) entry hreads hentry hlone
  refine ⟨hsplit, (hvalue _).mpr ⟨["Ada", " owes ", "5"], ?_, by decide⟩⟩
  refine .cons ?_ (.cons (.text _) (.cons ?_ .nil))
  · refine shows_placeholder_iff.mpr ⟨.str "Ada", ?_, rfl⟩
    rw [(Evaluator.evaluate_reads hreads _ _).1, evaluate_of_compile hname]
    rfl
  · refine shows_placeholder_iff.mpr ⟨.num (.int 5), ?_, by decide⟩
    rw [(Evaluator.evaluate_reads hreads _ _).1, evaluate_of_compile hamount]
    rfl

end Docket.Expression
