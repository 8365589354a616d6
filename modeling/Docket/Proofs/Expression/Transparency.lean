import Docket.Proofs.Expression.Caches

/-! # Caches that nobody notices

`Query` gathers what may be asked of an evaluator, and `Evaluator.ask` answers it and hands on the
evaluator with what it has read by then.  Whatever was asked before, nobody can tell from an answer.

* `Evaluator.ask_snd` says that a query leaves behind what reading a source or a template leaves
  behind.  So what reading keeps, every query keeps.
* `Evaluator.Fits` is the bound on the caches.  A full cache is emptied, also between two expressions
  of one template.
* `Evaluator.Reads.ask_congr` says that evaluators with the same rules answer alike.
* `Evaluator.caches_transparent` is the statement about all queries one after the other. -/

namespace Docket.Expression

variable {α : Type} {rules : Rules} {ev ev' : Evaluator} {vars : Variables}

/-! ### Queries -/

/-- What may be asked of an evaluator. -/
inductive Query where
  | validate (source : String)
  | compileTemplate (template : String)
  | evaluate (vars : Variables) (source : String)
  | condition (vars : Variables) (source : String) (default : Option Bool)
  | conditionOr (vars : Variables) (source : String) (default : Bool)
  | render (vars : Variables) (text : String)
  | renderText (vars : Variables) (text : String)

/-- What a query is answered with: a source and its tree, a template and its parts, a value, whether
it is true, or a text, and an error in its place.  Only `conditionOr` has both. -/
def Query.Answer : Query → Type
  | validate _ => Except Error (String × Expression)
  | compileTemplate _ => Except Error (String × List Part)
  | evaluate _ _ => Except Error Json
  | condition _ _ _ => Except Error Bool
  | conditionOr _ _ _ => Bool × Option Error
  | render _ _ => Except Error Json
  | renderText _ _ => Except Error String

/-- What an entry says of its source.  The serial number is not part of it. -/
def Entry.reading (entry : Entry α) : String × α := (entry.source, entry.value)

namespace Evaluator

/-- Answers a query. -/
def ask (ev : Evaluator) : (q : Query) → q.Answer × Evaluator
  | .validate source => ((ev.validate source).1.map Entry.reading, (ev.validate source).2)
  | .compileTemplate template =>
    ((ev.compileTemplate template).1.map Entry.reading, (ev.compileTemplate template).2)
  | .evaluate vars source => ev.evaluate vars source
  | .condition vars source default => ev.condition vars source default
  | .conditionOr vars source default => ev.conditionOr vars source default
  | .render vars text => ev.render vars text
  | .renderText vars text => ev.renderText vars text

/-- The evaluator after queries one after the other. -/
def after (ev : Evaluator) (queries : List Query) : Evaluator :=
  queries.foldl (fun ev q => (ev.ask q).2) ev

end Evaluator

/-! ### What is kept -/

namespace Cache

variable {cache : Cache α} {source : String} {value : α} {entry : Entry α} {n : ℕ}

theorem get?_insert (cache : Cache α) (source : String) (value : α) :
    (cache.insert source value).2.get? source = some (cache.insert source value).1 := by
  unfold get? insert
  exact List.find?_cons_of_pos (by simp)

theorem source_of_get? (h : cache.get? source = some entry) : entry.source = source := by
  unfold get? at h
  simpa using List.find?_some h

/-- A cache with a given capacity holds no more than that. -/
structure Fits (n : ℕ) (cache : Cache α) : Prop where
  capacity_eq : cache.capacity = n
  size_le : cache.size ≤ n

theorem fits_empty (capacity : ℕ) : (empty capacity : Cache α).Fits (max capacity 1) :=
  ⟨rfl, Nat.zero_le _⟩

theorem Fits.insert (h : cache.Fits n) (hn : 0 < n) (source : String) (value : α) :
    (cache.insert source value).2.Fits n := by
  refine ⟨h.capacity_eq, ?_⟩
  unfold Cache.insert size
  simp only [List.length_cons]
  split
  · exact hn
  · next hroom =>
    have hfilter := List.length_filter_le (fun e : Entry α => e.source != source) cache.entries
    have hcap := h.capacity_eq
    omega

end Cache

namespace Evaluator

theorem validate_kept {source : String} {entry : Entry Expression}
    (h : (ev.validate source).1 = .ok entry) :
    entry.source = source ∧ (ev.validate source).2.expressions.get? source = some entry := by
  unfold validate at h ⊢
  split at h
  · next found hg =>
    cases h
    exact ⟨Cache.source_of_get? hg, hg⟩
  · cases hc : ev.rules.compile source with
    | error e => rw [hc] at h; cases h
    | ok tree =>
        rw [hc] at h
        cases h
        exact ⟨rfl, ev.expressions.get?_insert source tree⟩

theorem compileTemplate_kept {template : String} {entry : Entry (List Part)}
    (h : (ev.compileTemplate template).1 = .ok entry) :
    entry.source = template ∧
      (ev.compileTemplate template).2.templates.get? template = some entry := by
  unfold compileTemplate at h ⊢
  split at h
  · next found hg =>
    cases h
    exact ⟨Cache.source_of_get? hg, hg⟩
  · cases hs : splitTemplate template with
    | error e => rw [hs] at h; cases h
    | ok segments =>
        rw [hs] at h
        simp only at h ⊢
        rcases hc : ev.compileParts segments with ⟨e | parts, next⟩
        · rw [hc] at h
          cases h
        · rw [hc] at h
          cases h
          exact ⟨rfl, next.templates.get?_insert template parts⟩

/-! ### What reading leaves behind -/

theorem evaluate_snd (ev : Evaluator) (vars : Variables) (source : String) :
    (ev.evaluate vars source).2 = (ev.validate source).2 := by
  unfold evaluate
  rcases ev.validate source with ⟨_ | _, _⟩ <;> rfl

theorem condition_snd (ev : Evaluator) (vars : Variables) (source : String)
    (default : Option Bool) : (ev.condition vars source default).2 = (ev.validate source).2 := by
  rw [← evaluate_snd ev vars source]
  unfold condition
  rcases ev.evaluate vars source with ⟨_ | _, _⟩
  · cases default <;> rfl
  · rfl

theorem conditionOr_snd (ev : Evaluator) (vars : Variables) (source : String) (default : Bool) :
    (ev.conditionOr vars source default).2 = (ev.validate source).2 := by
  rw [← condition_snd ev vars source none]
  unfold conditionOr
  rcases ev.condition vars source none with ⟨_ | _, _⟩ <;> rfl

theorem render_snd (ev : Evaluator) (vars : Variables) (text : String) :
    (ev.render vars text).2 = if isTemplate text then (ev.compileTemplate text).2 else ev := by
  unfold render
  split
  · rcases ev.compileTemplate text with ⟨_ | _, _⟩ <;> rfl
  · rfl

theorem renderText_snd (ev : Evaluator) (vars : Variables) (text : String) :
    (ev.renderText vars text).2 = (ev.render vars text).2 := by
  unfold renderText
  rcases ev.render vars text with ⟨_ | _, _⟩ <;> rfl

/-- What a query leaves behind: it reads a source, or a template, or nothing. -/
theorem ask_snd (ev : Evaluator) (q : Query) :
    (∃ source, (ev.ask q).2 = (ev.validate source).2) ∨
      (∃ template, (ev.ask q).2 = (ev.compileTemplate template).2) ∨ (ev.ask q).2 = ev := by
  have hrender : ∀ vars text, (∃ template,
      (ev.render vars text).2 = (ev.compileTemplate template).2) ∨ (ev.render vars text).2 = ev := by
    intro vars text
    rw [render_snd]
    split
    · exact Or.inl ⟨text, rfl⟩
    · exact Or.inr rfl
  cases q with
  | validate source => exact Or.inl ⟨source, rfl⟩
  | compileTemplate template => exact Or.inr (Or.inl ⟨template, rfl⟩)
  | evaluate vars source => exact Or.inl ⟨source, ev.evaluate_snd vars source⟩
  | condition vars source default => exact Or.inl ⟨source, ev.condition_snd vars source default⟩
  | conditionOr vars source default =>
      exact Or.inl ⟨source, ev.conditionOr_snd vars source default⟩
  | render vars text => exact Or.inr (hrender vars text)
  | renderText vars text =>
      have h := hrender vars text
      rw [← renderText_snd] at h
      exact Or.inr h

/-! ### The bound on the caches -/

/-- Both caches hold no more than a given number of entries. -/
structure Fits (n : ℕ) (ev : Evaluator) : Prop where
  expressions : ev.expressions.Fits n
  templates : ev.templates.Fits n

theorem ofRules_fits (rules : Rules) (capacity : ℕ) :
    (ofRules rules capacity).Fits (max capacity 1) :=
  ⟨Cache.fits_empty capacity, Cache.fits_empty capacity⟩

section Bound

variable {n : ℕ} (hn : 0 < n)

include hn

theorem validate_fits (h : ev.Fits n) (source : String) : (ev.validate source).2.Fits n := by
  unfold validate
  split
  · exact h
  · split
    · exact h
    · next tree _ => exact ⟨h.expressions.insert hn source tree, h.templates⟩

theorem compileParts_fits (segments : List Segment) (h : ev.Fits n) :
    (ev.compileParts segments).2.Fits n := by
  induction segments generalizing ev with
  | nil => exact h
  | cons segment rest ih =>
      cases segment with
      | text t =>
          have hrest := ih h
          unfold compileParts
          rcases hc : ev.compileParts rest with ⟨_ | _, next⟩
          all_goals rw [hc] at hrest; exact hrest
      | placeholder source column =>
          have hnext := validate_fits hn h source
          unfold compileParts
          rcases hv : ev.validate source with ⟨_ | entry, next⟩
          · rw [hv] at hnext
            exact hnext
          · rw [hv] at hnext
            have hrest := ih hnext
            simp only
            rcases hc : next.compileParts rest with ⟨_ | _, last⟩
            all_goals rw [hc] at hrest; exact hrest

theorem compileTemplate_fits (h : ev.Fits n) (template : String) :
    (ev.compileTemplate template).2.Fits n := by
  unfold compileTemplate
  split
  · exact h
  · split
    · exact h
    · next segments _ =>
      have hparts := compileParts_fits hn segments h
      rcases hc : ev.compileParts segments with ⟨_ | parts, next⟩
      · rw [hc] at hparts
        exact hparts
      · rw [hc] at hparts
        exact ⟨hparts.expressions, hparts.templates.insert hn template parts⟩

/-- **No query makes a cache hold more than it may.** -/
theorem ask_fits (h : ev.Fits n) (q : Query) : (ev.ask q).2.Fits n := by
  rcases ev.ask_snd q with ⟨source, hq⟩ | ⟨template, hq⟩ | hq
  · rw [hq]
    exact validate_fits hn h source
  · rw [hq]
    exact compileTemplate_fits hn h template
  · rw [hq]
    exact h

end Bound

/-! ### Answers -/

theorem ask_reads (h : ev.Reads rules) (q : Query) : (ev.ask q).2.Reads rules := by
  rcases ev.ask_snd q with ⟨source, hq⟩ | ⟨template, hq⟩ | hq
  · rw [hq]
    exact (validate_reads h source).2
  · rw [hq]
    exact (compileTemplate_reads h template).2
  · rw [hq]
    exact h

theorem validate_reading (h : ev.Reads rules) (source : String) :
    (ev.validate source).1.map Entry.reading = (rules.compile source).map fun e => (source, e) := by
  have hk : ∀ entry, (ev.validate source).1 = .ok entry → entry.source = source :=
    fun entry he => (validate_kept he).1
  rw [← (validate_reads h source).1]
  rcases hv : (ev.validate source).1 with _ | entry
  · rfl
  · obtain rfl := hk entry hv
    rfl

theorem compileTemplate_reading (h : ev.Reads rules) (template : String) :
    (ev.compileTemplate template).1.map Entry.reading =
      (rules.compileTemplate template).map fun parts => (template, parts) := by
  have hk : ∀ entry, (ev.compileTemplate template).1 = .ok entry → entry.source = template :=
    fun entry he => (compileTemplate_kept he).1
  rw [← (compileTemplate_reads h template).1]
  rcases hv : (ev.compileTemplate template).1 with _ | entry
  · rfl
  · obtain rfl := hk entry hv
    rfl

theorem condition_congr {source : String} (default : Option Bool)
    (h : (ev.evaluate vars source).1 = (ev'.evaluate vars source).1) :
    (ev.condition vars source default).1 = (ev'.condition vars source default).1 := by
  unfold condition
  rcases he : ev.evaluate vars source with ⟨_ | _, _⟩ <;>
    rcases he' : ev'.evaluate vars source with ⟨_ | _, _⟩ <;>
      rw [he, he'] at h <;> cases h
  · cases default <;> rfl
  · rfl

theorem conditionOr_congr {source : String} (default : Bool)
    (h : (ev.condition vars source none).1 = (ev'.condition vars source none).1) :
    (ev.conditionOr vars source default).1 = (ev'.conditionOr vars source default).1 := by
  unfold conditionOr
  rcases he : ev.condition vars source none with ⟨_ | _, _⟩ <;>
    rcases he' : ev'.condition vars source none with ⟨_ | _, _⟩ <;>
      rw [he, he'] at h <;> cases h
  · rfl
  · rfl

/-- **Evaluators with the same rules answer every query alike.** -/
theorem Reads.ask_congr (h : ev.Reads rules) (h' : ev'.Reads rules) (q : Query) :
    (ev.ask q).1 = (ev'.ask q).1 := by
  have hvalue : ∀ vars source, (ev.evaluate vars source).1 = (ev'.evaluate vars source).1 :=
    fun vars source => (evaluate_reads h vars source).1.trans (evaluate_reads h' vars source).1.symm
  cases q with
  | validate source => exact (validate_reading h source).trans (validate_reading h' source).symm
  | compileTemplate template =>
      exact (compileTemplate_reading h template).trans (compileTemplate_reading h' template).symm
  | evaluate vars source => exact hvalue vars source
  | condition vars source default => exact condition_congr default (hvalue vars source)
  | conditionOr vars source default =>
      exact conditionOr_congr default (condition_congr none (hvalue vars source))
  | render vars text => exact (render_reads h vars text).1.trans (render_reads h' vars text).1.symm
  | renderText vars text =>
      exact (renderText_reads h vars text).1.trans (renderText_reads h' vars text).1.symm

/-! ### Queries one after the other -/

theorem after_reads (h : ev.Reads rules) (queries : List Query) : (ev.after queries).Reads rules :=
  List.foldlRecOn queries _ h fun _ hev q _ => ask_reads hev q

theorem after_fits {n : ℕ} (hn : 0 < n) (h : ev.Fits n) (queries : List Query) :
    (ev.after queries).Fits n :=
  List.foldlRecOn queries _ h fun _ hev q _ => ask_fits hn hev q

/-- **Nobody notices the caches.**  Whatever an evaluator was asked before, and whether or not it had
an answer, it answers the next query as a fresh one with the same rules; each cache then holds no
more than its capacity, and at most one entry where that is zero; and what was just read is kept, as
the entry that was answered. -/
theorem caches_transparent (rules : Rules) (capacity : ℕ) (queries : List Query) :
    let ev := (ofRules rules capacity).after queries
    (∀ (q : Query) (other : ℕ), (ev.ask q).1 = ((ofRules rules other).ask q).1) ∧
    (∀ q : Query, (ev.ask q).2.expressions.size ≤ max capacity 1 ∧
      (ev.ask q).2.templates.size ≤ max capacity 1) ∧
    (∀ source entry, (ev.validate source).1 = .ok entry →
      (ev.validate source).2.expressions.get? source = some entry) ∧
    ∀ template entry, (ev.compileTemplate template).1 = .ok entry →
      (ev.compileTemplate template).2.templates.get? template = some entry := by
  intro ev
  have hreads : ev.Reads rules := after_reads (ofRules_reads rules capacity) queries
  have hpos : 0 < max capacity 1 := by omega
  have hfits : ev.Fits (max capacity 1) := after_fits hpos (ofRules_fits rules capacity) queries
  refine ⟨fun q other => ?_, fun q => ?_, fun source entry h => ?_, fun template entry h => ?_⟩
  · exact hreads.ask_congr (ofRules_reads rules other) q
  · have hnext := ask_fits hpos hfits q
    exact ⟨hnext.expressions.size_le, hnext.templates.size_le⟩
  · exact (validate_kept h).2
  · exact (compileTemplate_kept h).2

/-- An evaluator without room reads a template of two expressions and a source that is none.  The
first expression made way for the second; asked for it again, the evaluator answers as if nothing
had happened, and keeps it in the place of the second. -/
theorem caches_transparent_sample :
    let ev := (ofRules .default 0).after
      [.compileTemplate "\x7b\x7b a \x7d\x7d, \x7b\x7b b \x7d\x7d", .validate "a +"]
    (ev.expressions.get? "a").isSome = false ∧
    (ev.ask (.validate "a")).1 = ((ofRules .default 1024).ask (.validate "a")).1 ∧
    (ev.ask (.validate "a")).2.expressions.size ≤ 1 ∧
    ∃ entry, (ev.validate "a").1 = .ok entry ∧
      (ev.validate "a").2.expressions.get? "a" = some entry := by
  intro ev
  obtain ⟨hanswer, hsize, hkept, _⟩ := caches_transparent .default 0
    [.compileTemplate "\x7b\x7b a \x7d\x7d, \x7b\x7b b \x7d\x7d", .validate "a +"]
  have hok : (ev.validate "a").1.toOption.isSome = true := by decide +kernel
  refine ⟨by decide +kernel, hanswer (.validate "a") 1024, (hsize (.validate "a")).1, ?_⟩
  rcases hentry : (ev.validate "a").1 with e | entry
  · rw [hentry] at hok
    cases hok
  · exact ⟨entry, rfl, hkept "a" entry hentry⟩

end Evaluator
end Docket.Expression
