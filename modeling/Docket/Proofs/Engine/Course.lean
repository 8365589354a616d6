import Docket.Engine.Pass
import Docket.Proofs.Graph.Loaded

/-! # The course of a pass

A pass moves its record from place to place, where a `Place` is a status with the marks under it.
Everything else that items do happens beside this course: roles, notices, failures and jobs change,
but not the status, the marks, the data, the history or the number of moves.  `Pass.SameCourse` says
so, and `Scene.perform_sameCourse` proves it of every action.  All actions but a dispatch leave the
whole record alone (`Pass.SameRecord`).

* `Scene.move_cases` says what a move can do: it is cut off at the limit, it stays because there is
  no mark to go back to, or it arrives at the place that `Leads` gives.
* `Scene.visit_met` and `Scene.performGlobal_ran` say what one item of a visit or of a global action
  can do.
* `Scene.visit_visited` and `Scene.performGlobal_performed` say what visiting a status and running
  the items of a global action can do: effects beside the course, then at most one move.
* `Scene.Kept.drive` is the induction over a whole pass: what effects beside the course and arrivals
  keep, the pass keeps. -/

namespace Docket

open Expression (Variables)

/-! ### Places -/

/-- Where a record stands. -/
structure Place where
  status : String
  marks : Marks
deriving DecidableEq, Repr

def Record.place (r : Record) : Place := ⟨r.status, r.marks⟩

/-- Where a move leads from a place: to its target, with or without a mark on the status that is
left, or back to the status that was marked last. -/
inductive Leads (target : String) (mark : Bool) : Place → Place → Prop
  | onward (a : Place) (h : target ≠ previous) :
      Leads target mark a ⟨target, if mark then a.status :: a.marks else a.marks⟩
  | back (status next : String) (rest : Marks) (h : target = previous) :
      Leads target mark ⟨status, next :: rest⟩ ⟨next, rest⟩

/-- The status of a place and its marks are all in `K`. -/
def Place.Within (K : String → Prop) (a : Place) : Prop := K a.status ∧ ∀ m ∈ a.marks, K m

theorem Leads.within {K : String → Prop} {target : String} {mark : Bool} {a b : Place}
    (h : Leads target mark a b) (ht : target ≠ previous → K target) (ha : a.Within K) :
    b.Within K := by
  obtain ⟨hs, hm⟩ := ha
  cases h with
  | onward a hne =>
      refine ⟨ht hne, fun m hmem => ?_⟩
      dsimp only at hmem
      split at hmem
      · rcases List.mem_cons.mp hmem with rfl | hmem
        · exact hs
        · exact hm m hmem
      · exact hm m hmem
  | back status next rest _ =>
      exact ⟨hm next List.mem_cons_self, fun m hmem => hm m (List.mem_cons_of_mem _ hmem)⟩

/-- Whether an item is a jump that waits for no trigger. -/
def Item.jumpsAlone (item : Item) : Bool :=
  match item.action with
  | .jump ⟨_, _, .immediate⟩ | .jump ⟨_, _, .timeout _⟩ => true
  | _ => false

theorem Item.jumpsAlone_of_mode {item : Item} {jump : Jump} (h : item.action = .jump jump)
    (hm : ∀ name, jump.mode ≠ .trigger name) : item.jumpsAlone = true := by
  obtain ⟨target, mark, mode⟩ := jump
  unfold jumpsAlone
  rw [h]
  cases mode with
  | trigger name => exact absurd rfl (hm name)
  | immediate => rfl
  | timeout _ => rfl

/-! ### Effects beside the course -/

/-- The record of `q` is that of `p` but for the roles of the functions, and as many moves have been
made: `q` differs from `p` at most in these roles, the world, the failures and the jobs. -/
structure Pass.SameCourse (p q : Pass) : Prop where
  record : q.record = { p.record with buckets := q.record.buckets }
  hops : q.hops = p.hops
  ending : q.ending = p.ending

namespace Pass.SameCourse

variable {p q r : Pass}

theorem refl (p : Pass) : p.SameCourse p := ⟨rfl, rfl, rfl⟩

theorem trans (h : p.SameCourse q) (h' : q.SameCourse r) : p.SameCourse r := by
  refine ⟨?_, h'.hops.trans h.hops, h'.ending.trans h.ending⟩
  rw [h'.record, h.record]

theorem place (h : p.SameCourse q) : q.record.place = p.record.place := by rw [h.record]; rfl

theorem status (h : p.SameCourse q) : q.record.status = p.record.status := by rw [h.record]

theorem data (h : p.SameCourse q) : q.record.data = p.record.data := by rw [h.record]

theorem history (h : p.SameCourse q) : q.record.history = p.record.history := by rw [h.record]

theorem workflowId (h : p.SameCourse q) : q.record.workflowId = p.record.workflowId := by
  rw [h.record]

end Pass.SameCourse

/-- `q` has the whole record of `p`, and differs from it at most in the world, the failures and the
jobs. -/
structure Pass.SameRecord (p q : Pass) : Prop where
  record : q.record = p.record
  hops : q.hops = p.hops
  ending : q.ending = p.ending

namespace Pass.SameRecord

variable {p q r : Pass}

theorem refl (p : Pass) : p.SameRecord p := ⟨rfl, rfl, rfl⟩

theorem trans (h : p.SameRecord q) (h' : q.SameRecord r) : p.SameRecord r :=
  ⟨h'.record.trans h.record, h'.hops.trans h.hops, h'.ending.trans h.ending⟩

theorem sameCourse (h : p.SameRecord q) : p.SameCourse q := by
  refine ⟨?_, h.hops, h.ending⟩
  rw [h.record]

theorem foldl {β : Type} {f : Pass → β → Pass} (h : ∀ (p : Pass) (b : β), p.SameRecord (f p b))
    (l : List β) (p : Pass) : p.SameRecord (l.foldl f p) := by
  induction l generalizing p with
  | nil => exact refl p
  | cons b rest ih => exact (h p b).trans (ih (f p b))

end Pass.SameRecord

/-- Whether an item routes roles into a function of the record. -/
def Item.isDispatch (item : Item) : Bool :=
  match item.action with
  | .dispatch _ => true
  | _ => false

namespace Scene

variable (s : Scene) (vars : Variables) (item : Item) (p : Pass)

theorem fail_sameRecord (kind : FailureKind) (cause : String) :
    p.SameRecord (s.fail item kind cause p) :=
  ⟨rfl, rfl, rfl⟩

theorem failAll_sameRecord (misses : List Miss) : p.SameRecord (s.failAll item misses p) :=
  Pass.SameRecord.foldl (fun q miss => s.fail_sameRecord item q (missKind miss) miss.message) misses p

theorem noteCondition_sameRecord : p.SameRecord (s.noteCondition vars item p) := by
  unfold noteCondition
  split
  · split
    · exact Pass.SameRecord.refl p
    · exact s.fail_sameRecord item p _ _
  · exact Pass.SameRecord.refl p

theorem noteCondition_of_holds (h : s.holds vars item = true) : s.noteCondition vars item p = p := by
  unfold holds at h
  unfold noteCondition
  cases hc : item.condition with
  | none => rfl
  | some source =>
      simp only [hc] at h ⊢
      cases he : s.engine.rules.condition vars source with
      | ok b => rfl
      | error e => simp [he] at h

theorem computedRoles_sameRecord (dispatch : Dispatch) (source : String) :
    p.SameRecord (s.computedRoles vars item dispatch source p).2 := by
  unfold computedRoles
  split
  · exact s.fail_sameRecord item p _ _
  · split
    · exact Pass.SameRecord.refl p
    · exact s.failAll_sameRecord item p _

theorem specifiedRoles_sameRecord (spec : String) :
    p.SameRecord (s.specifiedRoles vars item spec p).2 := by
  unfold specifiedRoles
  simp only
  split
  · exact s.failAll_sameRecord item p _
  · exact s.failAll_sameRecord item p _

theorem dispatchRoles_sameRecord (dispatch : Dispatch) :
    p.SameRecord (s.dispatchRoles vars item dispatch p).2 := by
  unfold dispatchRoles
  split
  · exact s.computedRoles_sameRecord vars item p dispatch _
  · exact s.specifiedRoles_sameRecord vars item p _
  · exact Pass.SameRecord.refl p

theorem performDispatch_sameCourse (dispatch : Dispatch) :
    p.SameCourse (s.performDispatch vars item dispatch p) := by
  have h := (s.dispatchRoles_sameRecord vars item p dispatch).sameCourse
  unfold performDispatch
  simp only
  split
  · exact h
  · exact h.trans ⟨rfl, rfl, rfl⟩

theorem recipients_sameRecord (n : Notification) : p.SameRecord (s.recipients vars item n p).2 := by
  unfold recipients
  split
  · split
    · exact Pass.SameRecord.refl p
    · exact s.fail_sameRecord item p _ _
  · exact s.failAll_sameRecord item p _

theorem deliver_sameRecord (notice : Notice) : p.SameRecord (s.deliver item notice p) := by
  unfold deliver
  split
  · exact ⟨rfl, rfl, rfl⟩
  · simp only
    split
    · exact ⟨rfl, rfl, rfl⟩
    · exact ⟨rfl, rfl, rfl⟩

theorem performNotify_sameRecord (n : Notification) :
    p.SameRecord (s.performNotify vars item n p) := by
  have h := s.recipients_sameRecord vars item p n
  unfold performNotify
  simp only
  split
  · exact h
  · split
    · exact h.trans (s.fail_sameRecord item _ _ _)
    · exact h.trans (s.deliver_sameRecord item _ _)

theorem performRole_sameRecord (operation : RoleOperation) (mode : RoleChangeMode) (user : String)
    (nameIds : List String) (role : String) :
    p.SameRecord (s.performRole item operation mode user nameIds p role) := by
  unfold performRole
  split
  · exact s.fail_sameRecord item p _ _
  · simp only
    split
    · exact ⟨rfl, rfl, rfl⟩
    · exact ⟨rfl, rfl, rfl⟩

theorem performRoles_sameRecord (operation : RoleOperation) (change : RoleChange) :
    p.SameRecord (s.performRoles vars item operation change p) := by
  unfold performRoles
  split
  · exact Pass.SameRecord.refl p
  · exact (s.failAll_sameRecord item p _).trans
      (Pass.SameRecord.foldl (fun q role => s.performRole_sameRecord item q _ _ _ _ role) _ _)

/-- Only a dispatch changes something of the record itself. -/
theorem perform_sameRecord (h : item.isDispatch = false) :
    p.SameRecord (s.perform vars item p).1 := by
  unfold Item.isDispatch at h
  unfold perform
  cases ha : item.action with
  | dispatch d => simp [ha] at h
  | notify n => exact s.performNotify_sameRecord vars item p n
  | changeRole operation change => exact s.performRoles_sameRecord vars item p operation change
  | jump _ => exact Pass.SameRecord.refl p
  | message _ => exact Pass.SameRecord.refl p
  | choice _ => exact Pass.SameRecord.refl p
  | edit _ => exact Pass.SameRecord.refl p

/-- **Nothing that an item does by itself touches the course of the pass.** -/
theorem perform_sameCourse : p.SameCourse (s.perform vars item p).1 := by
  cases h : item.isDispatch with
  | false => exact (s.perform_sameRecord vars item p h).sameCourse
  | true =>
      unfold Item.isDispatch at h
      unfold perform
      cases ha : item.action with
      | dispatch d => exact s.performDispatch_sameCourse vars item p d
      | _ => simp [ha] at h

/-! ### Moves -/

/-- The pass after its record has come to another place. -/
def arrive (origin : Origin) (next : Place) : Pass :=
  { p with
    hops := p.hops + 1
    record := { p.record with
      marks := next.marks
      history := p.record.history ++ [s.entry item (some next.status) origin]
      lastUpdate := s.moment.now
      status := next.status } }

/-- The pass after it was cut off at the limit. -/
def cutOff : Pass :=
  { s.fail item .tooManyJumps
      ("too many jumps (limit " ++ toString s.engine.settings.maxHops ++ ")") p with
    ending := some .hopLimit }

/-- **What a move can do.** -/
theorem move_cases (m : Move) :
    (s.engine.settings.maxHops ≤ p.hops ∧ s.move item m p = (s.cutOff item p, .limited)) ∨
    (p.hops < s.engine.settings.maxHops ∧ m.target = previous ∧ p.record.marks = [] ∧
      s.move item m p = (p, .stayed)) ∨
    (p.hops < s.engine.settings.maxHops ∧ ∃ next, Leads m.target m.mark p.record.place next ∧
      s.move item m p = (s.arrive item p m.origin next, .moved)) := by
  unfold move
  by_cases hlim : s.engine.settings.maxHops ≤ p.hops
  · rw [if_pos hlim]
    exact Or.inl ⟨hlim, rfl⟩
  · rw [if_neg hlim]
    have hlt : p.hops < s.engine.settings.maxHops := Nat.lt_of_not_le hlim
    by_cases ht : m.target = previous
    · rw [ht]
      cases hm : p.record.marks with
      | nil =>
          rw [Marks.resolve_previous_nil]
          refine Or.inr (Or.inl ⟨hlt, rfl, rfl, ?_⟩)
          rw [← hm]
      | cons next rest =>
          rw [Marks.resolve_previous_cons]
          refine Or.inr (Or.inr ⟨hlt, ⟨next, rest⟩, ?_, rfl⟩)
          unfold Record.place
          rw [hm]
          exact Leads.back _ _ _ rfl
    · rw [Marks.resolve_of_ne ht]
      exact Or.inr (Or.inr ⟨hlt, _, Leads.onward _ ht, rfl⟩)

variable {s item p}

theorem jumpMove_eq_some {jump : Jump} {m : Move} (h : s.jumpMove p jump = some m) :
    m.target = jump.target ∧ m.mark = jump.mark ∧ ∀ name, jump.mode ≠ .trigger name := by
  unfold jumpMove at h
  cases hm : jump.mode with
  | immediate =>
      simp only [hm, Option.some.injEq] at h
      subst h
      exact ⟨rfl, rfl, by simp⟩
  | trigger name => simp [hm] at h
  | timeout seconds =>
      simp only [hm] at h
      split at h
      · cases h
      · cases h
        exact ⟨rfl, rfl, by simp⟩

/-- Only a jump that waits for no trigger asks for a move, and asking changes nothing. -/
theorem perform_eq_some {vars : Variables} {m : Move} {q : Pass}
    (h : s.perform vars item p = (q, some m)) :
    q = p ∧ item.jumpsAlone = true ∧ item.route? = some (m.target, m.mark) := by
  unfold perform at h
  cases ha : item.action with
  | jump jump =>
      simp only [ha, Prod.mk.injEq] at h
      obtain ⟨ht, hk, hmode⟩ := jumpMove_eq_some h.2
      exact ⟨h.1.symm, Item.jumpsAlone_of_mode ha hmode, by rw [Item.route?_jump ha, ht, hk]⟩
  | dispatch _ => simp [ha] at h
  | notify _ => simp [ha] at h
  | changeRole _ _ => simp [ha] at h
  | message _ => simp [ha] at h
  | choice _ => simp [ha] at h
  | edit _ => simp [ha] at h

/-! ### Visits -/

/-- What can come of visiting a list of items. -/
inductive Visited (s : Scene) (vars : Variables) (items : List Item) (p : Pass) : Pass × Visit → Prop
  | through {q : Pass} : p.SameCourse q → Visited s vars items p (q, .through)
  | suspended {q : Pass} {item : Item} : p.SameCourse q → item ∈ items → s.holds vars item = true →
      item.isInteractive = true →
      Visited s vars items p ({ q with ending := some (.suspended item.id) }, .halted)
  | moved {q : Pass} {item : Item} {m : Move} {next : Place} : p.SameCourse q → item ∈ items →
      s.holds vars item = true → s.perform vars item q = (q, some m) →
      q.hops < s.engine.settings.maxHops → Leads m.target m.mark q.record.place next →
      Visited s vars items p (s.arrive item q m.origin next, .moved)
  | limited {q : Pass} {item : Item} {m : Move} : p.SameCourse q → item ∈ items →
      s.holds vars item = true → s.perform vars item q = (q, some m) →
      s.engine.settings.maxHops ≤ q.hops → Visited s vars items p (s.cutOff item q, .halted)

theorem Visited.cons {vars : Variables} {items : List Item} {q : Pass} {r : Pass × Visit}
    (hb : p.SameCourse q) (h : s.Visited vars items q r) : s.Visited vars (item :: items) p r := by
  cases h with
  | through hq => exact .through (hb.trans hq)
  | suspended hq hi hh hint => exact .suspended (hb.trans hq) (List.mem_cons_of_mem _ hi) hh hint
  | moved hq hi hh hp hlt hl => exact .moved (hb.trans hq) (List.mem_cons_of_mem _ hi) hh hp hlt hl
  | limited hq hi hh hp hle => exact .limited (hb.trans hq) (List.mem_cons_of_mem _ hi) hh hp hle

/-- What can come of the first of the items that are visited. -/
inductive Met (s : Scene) (vars : Variables) (item : Item) (rest : List Item) (p : Pass) :
    Pass × Visit → Prop
  | closed : s.holds vars item = false →
      Met s vars item rest p (s.visit vars rest (s.noteCondition vars item p))
  | suspended : s.holds vars item = true → item.isInteractive = true →
      Met s vars item rest p ({ p with ending := some (.suspended item.id) }, .halted)
  | passed {q : Pass} {m : Option Move} : s.holds vars item = true → item.isInteractive = false →
      s.perform vars item p = (q, m) → Met s vars item rest p (s.visit vars rest q)
  | moved {m : Move} {next : Place} : s.holds vars item = true → item.isInteractive = false →
      s.perform vars item p = (p, some m) → p.hops < s.engine.settings.maxHops →
      Leads m.target m.mark p.record.place next →
      Met s vars item rest p (s.arrive item p m.origin next, .moved)
  | limited {m : Move} : s.holds vars item = true → item.isInteractive = false →
      s.perform vars item p = (p, some m) → s.engine.settings.maxHops ≤ p.hops →
      Met s vars item rest p (s.cutOff item p, .halted)

/-- **What one item of a visit can do.** -/
theorem visit_met (s : Scene) (vars : Variables) (item : Item) (rest : List Item) (p : Pass) :
    s.Met vars item rest p (s.visit vars (item :: rest) p) := by
  unfold visit
  simp only
  cases hh : s.holds vars item with
  | false => exact .closed hh
  | true =>
      rw [if_pos rfl, s.noteCondition_of_holds vars item p hh]
      cases hint : item.isInteractive with
      | true => exact .suspended hh hint
      | false =>
          rw [if_neg Bool.false_ne_true]
          rcases hp : s.perform vars item p with ⟨q, _ | m⟩
          · exact .passed hh hint hp
          · obtain ⟨rfl, _, _⟩ := perform_eq_some hp
            rcases s.move_cases item q m with ⟨hle, hm⟩ | ⟨_, _, _, hm⟩ | ⟨hlt, next, hl, hm⟩
            · simp only [hm]
              exact .limited hh hint hp hle
            · simp only [hm]
              exact .passed hh hint hp
            · simp only [hm]
              exact .moved hh hint hp hlt hl

/-- **Visiting a status has effects beside the course and makes at most one move.** -/
theorem visit_visited (s : Scene) (vars : Variables) (items : List Item) (p : Pass) :
    s.Visited vars items p (s.visit vars items p) := by
  induction items generalizing p with
  | nil => exact .through (Pass.SameCourse.refl p)
  | cons item rest ih =>
      have h := s.visit_met vars item rest p
      generalize s.visit vars (item :: rest) p = r at h
      have hp := Pass.SameCourse.refl p
      cases h with
      | closed => exact (ih _).cons (s.noteCondition_sameRecord vars item p).sameCourse
      | suspended hh hint => exact .suspended hp List.mem_cons_self hh hint
      | @passed q m _ _ hperf =>
          have hb := s.perform_sameCourse vars item p
          rw [hperf] at hb
          exact (ih q).cons hb
      | moved hh _ hperf hlt hl => exact .moved hp List.mem_cons_self hh hperf hlt hl
      | limited hh _ hperf hle => exact .limited hp List.mem_cons_self hh hperf hle

/-- What can come of the items of a global action. -/
inductive Performed (s : Scene) (vars : Variables) (items : List Item) (p : Pass) : Pass → Prop
  | through {q : Pass} : p.SameCourse q → Performed s vars items p q
  | moved {q : Pass} {item : Item} {m : Move} {next : Place} : p.SameCourse q → item ∈ items →
      s.holds vars item = true → s.perform vars item q = (q, some m) →
      q.hops < s.engine.settings.maxHops → Leads m.target m.mark q.record.place next →
      Performed s vars items p (s.arrive item q .globalAction next)
  | limited {q : Pass} {item : Item} {m : Move} : p.SameCourse q → item ∈ items →
      s.holds vars item = true → s.perform vars item q = (q, some m) →
      s.engine.settings.maxHops ≤ q.hops → Performed s vars items p (s.cutOff item q)

theorem Performed.cons {vars : Variables} {items : List Item} {q r : Pass} (hb : p.SameCourse q)
    (h : s.Performed vars items q r) : s.Performed vars (item :: items) p r := by
  cases h with
  | through hq => exact .through (hb.trans hq)
  | moved hq hi hh hp hlt hl => exact .moved (hb.trans hq) (List.mem_cons_of_mem _ hi) hh hp hlt hl
  | limited hq hi hh hp hle => exact .limited (hb.trans hq) (List.mem_cons_of_mem _ hi) hh hp hle

/-- What can come of the first of the items of a global action. -/
inductive Ran (s : Scene) (vars : Variables) (item : Item) (rest : List Item) (p : Pass) : Pass → Prop
  | skipped : item.isInteractive = true → Ran s vars item rest p (s.performGlobal vars rest p)
  | closed : s.holds vars item = false →
      Ran s vars item rest p (s.performGlobal vars rest (s.noteCondition vars item p))
  | passed {q : Pass} {m : Option Move} : s.holds vars item = true →
      s.perform vars item p = (q, m) → Ran s vars item rest p (s.performGlobal vars rest q)
  | moved {m : Move} {next : Place} : s.holds vars item = true →
      s.perform vars item p = (p, some m) → p.hops < s.engine.settings.maxHops →
      Leads m.target m.mark p.record.place next →
      Ran s vars item rest p (s.arrive item p .globalAction next)
  | limited {m : Move} : s.holds vars item = true → s.perform vars item p = (p, some m) →
      s.engine.settings.maxHops ≤ p.hops → Ran s vars item rest p (s.cutOff item p)

/-- **What one item of a global action can do.** -/
theorem performGlobal_ran (s : Scene) (vars : Variables) (item : Item) (rest : List Item) (p : Pass) :
    s.Ran vars item rest p (s.performGlobal vars (item :: rest) p) := by
  unfold performGlobal
  simp only
  cases hint : item.isInteractive with
  | true => exact .skipped hint
  | false =>
      rw [if_neg Bool.false_ne_true]
      cases hh : s.holds vars item with
      | false => exact .closed hh
      | true =>
          rw [if_pos rfl, s.noteCondition_of_holds vars item p hh]
          rcases hp : s.perform vars item p with ⟨q, _ | m⟩
          · exact .passed hh hp
          · obtain ⟨rfl, _, _⟩ := perform_eq_some hp
            rcases s.move_cases item q { m with origin := .globalAction } with
              ⟨hle, hm⟩ | ⟨_, _, _, hm⟩ | ⟨hlt, next, hl, hm⟩
            · simp only [hm]
              exact .limited hh hp hle
            · simp only [hm]
              exact .passed hh hp
            · simp only [hm]
              exact .moved hh hp hlt hl

/-- **A global action has effects beside the course and makes at most one move.** -/
theorem performGlobal_performed (s : Scene) (vars : Variables) (items : List Item) (p : Pass) :
    s.Performed vars items p (s.performGlobal vars items p) := by
  induction items generalizing p with
  | nil => exact .through (Pass.SameCourse.refl p)
  | cons item rest ih =>
      have h := s.performGlobal_ran vars item rest p
      generalize s.performGlobal vars (item :: rest) p = r at h
      have hp := Pass.SameCourse.refl p
      cases h with
      | skipped => exact (ih p).cons hp
      | closed => exact (ih _).cons (s.noteCondition_sameRecord vars item p).sameCourse
      | @passed q m _ hperf =>
          have hb := s.perform_sameCourse vars item p
          rw [hperf] at hb
          exact (ih q).cons hb
      | moved hh hperf hlt hl => exact .moved hp List.mem_cons_self hh hperf hlt hl
      | limited hh hperf hle => exact .limited hp List.mem_cons_self hh hperf hle

/-! ### Whole passes -/

/-- What a pass keeps: effects beside its course keep it, the end of the pass keeps it, and so does
every arrival that an item of the record's status asks for. -/
structure Kept (s : Scene) (P : Pass → Prop) : Prop where
  sameCourse : ∀ {p q : Pass}, p.SameCourse q → P p → P q
  ending : ∀ {p : Pass} (e : Option PassState), P p → P { p with ending := e }
  arrive : ∀ {p : Pass} {status : Status} {item : Item} {vars : Variables} {m : Move} {next : Place},
    s.graph.status? p.record.status = some status → item ∈ status.items →
    s.perform vars item p = (p, some m) → p.hops < s.engine.settings.maxHops →
    Leads m.target m.mark p.record.place next → P p → P (s.arrive item p m.origin next)

variable {P : Pass → Prop}

theorem Kept.cutOff (hk : s.Kept P) (hp : P p) : P (s.cutOff item p) :=
  hk.ending (some .hopLimit) (hk.sameCourse (s.fail_sameRecord item p _ _).sameCourse hp)

theorem Kept.visit (hk : s.Kept P) {status : Status} {vars : Variables} {q : Pass} {v : Visit}
    (hs : s.graph.status? p.record.status = some status)
    (hv : s.visit vars status.items p = (q, v)) (hp : P p) : P q := by
  have h := s.visit_visited vars status.items p
  rw [hv] at h
  cases h with
  | through hq => exact hk.sameCourse hq hp
  | suspended hq => exact hk.ending _ (hk.sameCourse hq hp)
  | moved hq hi _ hperf hlt hl =>
      rw [← hq.status] at hs
      exact hk.arrive hs hi hperf hlt hl (hk.sameCourse hq hp)
  | limited hq => exact hk.cutOff (hk.sameCourse hq hp)

/-- **The induction over a pass.**  A pass that enters an undeclared status stops; else its visit
halts it, or it settles, or it goes on as long as moves are left. -/
theorem Kept.drive (hk : s.Kept P) (left : ℕ) (hp : P p) : P (s.drive left p).1 := by
  fun_induction Scene.drive s left p with
  | case1 left p hs => exact hp
  | case2 left p status hs q hv => exact hk.visit hs hv hp
  | case3 left p status hs q hv => exact hk.ending _ (hk.visit hs hv hp)
  | case4 p status hs q hv => exact hk.visit hs hv hp
  | case5 p status hs q left hv ih => exact ih (hk.visit hs hv hp)

theorem Kept.goOn (hk : s.Kept P) (hp : P p) : P (s.goOn p).1 := by
  unfold Scene.goOn
  split
  · exact hp
  · exact hk.drive _ hp

/-- A pass fails only where its record has come into a status that is not declared. -/
theorem drive_eq_error {left : ℕ} {q : Pass} {e : EngineError}
    (h : s.drive left p = (q, .error e)) :
    s.graph.status? q.record.status = none ∧ e = .unknownStatus q.record.status := by
  fun_induction Scene.drive s left p with
  | case1 left p hs => cases h; exact ⟨hs, rfl⟩
  | case2 => cases h
  | case3 => cases h
  | case4 => cases h
  | case5 p status hs q left hv ih => exact ih h

theorem goOn_eq_error {q : Pass} {e : EngineError} (h : s.goOn p = (q, .error e)) :
    s.graph.status? q.record.status = none ∧ e = .unknownStatus q.record.status := by
  unfold goOn at h
  split at h
  · cases h
  · exact drive_eq_error h

end Scene
end Docket
