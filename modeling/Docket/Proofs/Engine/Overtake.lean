import Docket.Proofs.Engine.Loop

/-! # Passes under two limits

A pass and the same pass under a higher limit go together until the first one is cut off.  Then the
second one has come at least as far, and it may go on: `Scene.Overtakes`.

* `Pass.Extends` says that a pass has come at least as far as another.  Nothing takes a pass back.
* For every function `X` of a pass that may move the record, `X_raised` says that `X` does the same
  under both limits and does not reach the lower one, or is overtaken.
* `Ends.raised` is the induction over the loops of both passes, and `goOn_raised` says what going on
  comes to. -/

namespace Docket

open Expression (Variables)

/-- The identifier of the failure that was recorded last. -/
def FailureLog.latest? (log : FailureLog) : Option String := log.lines.head?.map LoggedError.techId

theorem FailureLog.latest?_record (log : FailureLog) (now : Instant) (site : FailureSite)
    (kind : FailureKind) (cause : String) :
    (log.record now site kind cause).latest? = some (techId site kind cause) := by
  rw [← lineAfter_techId log now]
  rfl

/-! ### Coming further -/

/-- `q` has come at least as far as `p`. -/
structure Pass.Extends (p q : Pass) : Prop where
  hops : p.hops ≤ q.hops
  history : p.record.history <+: q.record.history

namespace Pass.Extends

variable {p q r : Pass}

theorem refl (p : Pass) : p.Extends p := ⟨Nat.le_refl _, List.prefix_rfl⟩

theorem trans (h : p.Extends q) (h' : q.Extends r) : p.Extends r :=
  ⟨Nat.le_trans h.hops h'.hops, h.history.trans h'.history⟩

theorem of_sameCourse (h : p.SameCourse q) : p.Extends q :=
  ⟨Nat.le_of_eq h.hops.symm, h.history ▸ List.prefix_rfl⟩

end Pass.Extends

namespace Scene

/-- The scene under another limit. -/
def withLimit (s : Scene) (n : ℕ) : Scene :=
  { s with engine := { s.engine with settings := { s.engine.settings with maxHops := n } } }

variable {s : Scene} {vars : Variables} {item : Item} {items : List Item} {n : ℕ} {p p' q r r' : Pass}

theorem arrive_extends (s : Scene) (item : Item) (origin : Origin) (next : Place) (p : Pass) :
    p.Extends (s.arrive item p origin next) :=
  ⟨Nat.le_succ _, List.prefix_append _ _⟩

theorem noteEdit_extends (s : Scene) (item : Item) (p : Pass) : p.Extends (s.noteEdit item p) :=
  ⟨Nat.le_refl _, List.prefix_append _ _⟩

theorem cutOff_extends (s : Scene) (item : Item) (p : Pass) : p.Extends (s.cutOff item p) :=
  ⟨Nat.le_refl _, List.prefix_rfl⟩

theorem visit_extends (s : Scene) (vars : Variables) (items : List Item) (p : Pass) :
    p.Extends (s.visit vars items p).1 := by
  have h := s.visit_visited vars items p
  generalize s.visit vars items p = r at h
  cases h with
  | through hb => exact .of_sameCourse hb
  | suspended hb => exact (Pass.Extends.of_sameCourse hb).trans ⟨Nat.le_refl _, List.prefix_rfl⟩
  | moved hb => exact (Pass.Extends.of_sameCourse hb).trans (s.arrive_extends _ _ _ _)
  | limited hb => exact (Pass.Extends.of_sameCourse hb).trans (s.cutOff_extends _ _)

theorem performGlobal_extends (s : Scene) (vars : Variables) (items : List Item) (p : Pass) :
    p.Extends (s.performGlobal vars items p) := by
  have h := s.performGlobal_performed vars items p
  generalize s.performGlobal vars items p = q at h
  cases h with
  | through hb => exact .of_sameCourse hb
  | moved hb => exact (Pass.Extends.of_sameCourse hb).trans (s.arrive_extends _ _ _ _)
  | limited hb => exact (Pass.Extends.of_sameCourse hb).trans (s.cutOff_extends _ _)

theorem Ends.extends {k : ℕ} {r : Pass × Except EngineError Unit} (h : s.Ends k p r) :
    p.Extends r.1 := by
  have visited : ∀ {p q : Pass} {status : Status} {v : Visit},
      s.visit (s.bindings p) status.items p = (q, v) → p.Extends q := by
    intro p q status v hv
    have h := s.visit_extends (s.bindings p) status.items p
    rw [hv] at h
    exact h
  induction h with
  | lost => exact .refl _
  | halted _ hv => exact visited hv
  | settled _ hv => exact (visited hv).trans ⟨Nat.le_refl _, List.prefix_rfl⟩
  | onward _ hv _ ih => exact (visited hv).trans ih

theorem Ends.extends_visit {k : ℕ} {status : Status} {r : Pass × Except EngineError Unit}
    (h : s.Ends k p r) (hs : s.graph.status? p.record.status = some status) :
    (s.visit (s.bindings p) status.items p).1.Extends r.1 := by
  rcases hv : s.visit (s.bindings p) status.items p with ⟨q, v⟩
  rcases h.entered hs hv with ⟨_, _, rfl⟩ | ⟨_, _, rfl⟩ | ⟨_, _, _, hrest⟩
  · exact .refl q
  · exact ⟨Nat.le_refl _, List.prefix_rfl⟩
  · exact hrest.extends

theorem goOn_extends (s : Scene) (p : Pass) : p.Extends (s.goOn p).1 := by
  unfold goOn
  split
  · exact .refl p
  · obtain ⟨k, _, hends⟩ := s.drive_ends (s.engine.settings.maxHops - p.hops) p (by omega)
    exact hends.extends

/-! ### What does not look at the limit -/

theorem holds_withLimit : (s.withLimit n).holds vars item = s.holds vars item := (rfl)

theorem noteCondition_withLimit :
    (s.withLimit n).noteCondition vars item p = s.noteCondition vars item p := (rfl)

theorem perform_withLimit : (s.withLimit n).perform vars item p = s.perform vars item p := (rfl)

theorem graph_withLimit : (s.withLimit n).graph = s.graph := (rfl)

theorem moment_withLimit : (s.withLimit n).moment = s.moment := (rfl)

theorem noteEdit_withLimit : (s.withLimit n).noteEdit item p = s.noteEdit item p := (rfl)

theorem startedBy_withLimit : (s.withLimit n).startedBy p = s.startedBy p := (rfl)

theorem admits_withLimit (admitted : List String) :
    (s.withLimit n).admits p admitted = s.admits p admitted := (rfl)

theorem bindings_withLimit : (s.withLimit n).bindings p = s.bindings p := (rfl)

theorem begin?_withLimit (record : Record) : (s.withLimit n).begin? record = s.begin? record := (rfl)

theorem statusOf_withLimit (record : Record) :
    (s.withLimit n).statusOf record = s.statusOf record := (rfl)

/-! ### Overtaking -/

/-- `r` was cut off at the limit, and under the limit `n` the pass has come to `r'`, at least as far.
It has come further, or the limit `n` has cut it off as well, or the item at which `r` was cut off
leads back and nothing is marked. -/
structure Overtakes (s : Scene) (n : ℕ) (r r' : Pass) : Prop where
  ending : r.ending = some .hopLimit
  limit : s.engine.settings.maxHops ≤ r.hops
  hops : r.hops ≤ r'.hops
  history : 0 < s.engine.settings.maxHops → r.record.history <+: r'.record.history
  asked : ∃ item ∈ s.graph.workflow.items, ∃ target mark, item.route? = some (target, mark) ∧
    r.world.log.latest? = some (Failure.id ⟨s.site r item, .limit s.engine.settings.maxHops⟩) ∧
    (r.hops < r'.hops ∨ n ≤ r.hops ∨ target = previous ∧ r.record.marks = [])

theorem Overtakes.trans (h : s.Overtakes n p p') (h' : p'.Extends r') : s.Overtakes n p r' where
  ending := h.ending
  limit := h.limit
  hops := Nat.le_trans h.hops h'.hops
  history h0 := (h.history h0).trans h'.history
  asked := by
    obtain ⟨item, hi, target, mark, hr, hl, hcome⟩ := h.asked
    exact ⟨item, hi, target, mark, hr, hl, hcome.imp (fun hlt => Nat.lt_of_lt_of_le hlt h'.hops) id⟩

theorem Overtakes.noteEdit (h : s.Overtakes n p p') (h0 : s.engine.settings.maxHops = 0)
    (item : Item) : s.Overtakes n (s.noteEdit item p) p' where
  ending := h.ending
  limit := h.limit
  hops := h.hops
  history hpos := absurd h0 (Nat.ne_of_gt hpos)
  asked := h.asked

/-- Two passes are the same and not cut off, or the first is overtaken. -/
def Keeps (s : Scene) (n : ℕ) (r r' : Pass) : Prop :=
  r' = r ∧ r.ending ≠ some .hopLimit ∨ s.Overtakes n r r'

/-- A move with a move left is the same under a higher limit, and else the pass is overtaken. -/
theorem move_raised {m : Move} (hn : s.engine.settings.maxHops ≤ n)
    (hi : item ∈ s.graph.workflow.items) (hr : item.route? = some (m.target, m.mark)) (p : Pass) :
    (∃ next, s.move item m p = (s.arrive item p m.origin next, .moved) ∧
      (s.withLimit n).move item m p = (s.arrive item p m.origin next, .moved)) ∨
    (s.move item m p = (p, .stayed) ∧ (s.withLimit n).move item m p = (p, .stayed)) ∨
    (s.move item m p = (s.cutOff item p, .limited) ∧
      s.Overtakes n (s.cutOff item p) ((s.withLimit n).move item m p).1) := by
  by_cases hlt : p.hops < s.engine.settings.maxHops
  · have hsame : (s.withLimit n).move item m p = s.move item m p := by
      have hlt' : p.hops < (s.withLimit n).engine.settings.maxHops := Nat.lt_of_lt_of_le hlt hn
      unfold move
      rw [if_neg (Nat.not_le.mpr hlt), if_neg (Nat.not_le.mpr hlt')]
      rfl
    rw [hsame]
    rcases s.move_cases item p m with ⟨hle, _⟩ | ⟨_, _, _, hm⟩ | ⟨_, next, _, hm⟩
    · omega
    · exact Or.inr (Or.inl ⟨hm, hm⟩)
    · exact Or.inl ⟨next, hm, hm⟩
  · refine Or.inr (Or.inr ?_)
    have hle : s.engine.settings.maxHops ≤ p.hops := Nat.le_of_not_lt hlt
    have hlatest : (s.cutOff item p).world.log.latest? =
        some (Failure.id ⟨s.site p item, .limit s.engine.settings.maxHops⟩) :=
      FailureLog.latest?_record _ _ _ _ _
    refine ⟨if_pos hle, ?_⟩
    rcases (s.withLimit n).move_cases item p m with ⟨hle', hm⟩ | ⟨_, ht, hmarks, hm⟩ | ⟨_, next, _, hm⟩
    · have hcome := (s.withLimit n).cutOff_extends item p
      rw [hm]
      exact ⟨rfl, hle, hcome.hops, fun _ => hcome.history,
        item, hi, m.target, m.mark, hr, hlatest, Or.inr (Or.inl hle')⟩
    · rw [hm]
      exact ⟨rfl, hle, Nat.le_refl _, fun _ => List.prefix_rfl,
        item, hi, m.target, m.mark, hr, hlatest, Or.inr (Or.inr ⟨ht, hmarks⟩)⟩
    · have hcome := (s.withLimit n).arrive_extends item m.origin next p
      rw [hm]
      exact ⟨rfl, hle, hcome.hops, fun _ => hcome.history,
        item, hi, m.target, m.mark, hr, hlatest, Or.inl (Nat.lt_succ_self _)⟩

/-! ### Visits -/

section Lists

variable (hn : s.engine.settings.maxHops ≤ n) (hi : ∀ item ∈ items, item ∈ s.graph.workflow.items)

include hn hi

theorem visit_raised (vars : Variables) (p : Pass) (hp : p.ending ≠ some .hopLimit) :
    ((s.withLimit n).visit vars items p = s.visit vars items p ∧
      (s.visit vars items p).1.ending ≠ some .hopLimit) ∨
    ((s.visit vars items p).2 = .halted ∧
      s.Overtakes n (s.visit vars items p).1 ((s.withLimit n).visit vars items p).1) := by
  induction items generalizing p with
  | nil => exact Or.inl ⟨rfl, hp⟩
  | cons item rest ih =>
      obtain ⟨hitem, hrest⟩ := List.forall_mem_cons.mp hi
      unfold visit
      simp only [holds_withLimit, noteCondition_withLimit, perform_withLimit]
      by_cases hh : s.holds vars item = true
      · simp only [if_pos hh, s.noteCondition_of_holds vars item p hh]
        by_cases hint : item.isInteractive = true
        · simp only [if_pos hint]
          exact Or.inl ⟨trivial, by simp⟩
        · simp only [if_neg hint]
          have he := (s.perform_sameCourse vars item p).ending
          rcases hperf : s.perform vars item p with ⟨q, _ | m⟩
          · rw [hperf] at he
            exact ih hrest q (he ▸ hp)
          · obtain ⟨rfl, _, hr⟩ := perform_eq_some hperf
            rcases move_raised hn hitem hr q with ⟨_, hm, hm'⟩ | ⟨hm, hm'⟩ | ⟨hm, hover⟩
            · simp only [hm, hm']
              exact Or.inl ⟨trivial, hp⟩
            · simp only [hm, hm']
              exact ih hrest q hp
            · simp only [hm]
              -- cut off here; under `n` the pass may stay and visit the rest
              refine Or.inr ⟨trivial, ?_⟩
              revert hover
              rcases (s.withLimit n).move item m q with ⟨q', _ | _ | _⟩
              · exact id
              · exact fun hover => hover.trans ((s.withLimit n).visit_extends vars rest q')
              · exact id
      · simp only [if_neg hh]
        have he := (s.noteCondition_sameRecord vars item p).ending
        exact ih hrest _ (he ▸ hp)

theorem performGlobal_raised (vars : Variables) (p : Pass) (hp : p.ending ≠ some .hopLimit) :
    s.Keeps n (s.performGlobal vars items p) ((s.withLimit n).performGlobal vars items p) := by
  induction items generalizing p with
  | nil => exact Or.inl ⟨rfl, hp⟩
  | cons item rest ih =>
      obtain ⟨hitem, hrest⟩ := List.forall_mem_cons.mp hi
      unfold performGlobal
      simp only [holds_withLimit, noteCondition_withLimit, perform_withLimit]
      by_cases hint : item.isInteractive = true
      · simp only [if_pos hint]
        exact ih hrest p hp
      · simp only [if_neg hint]
        by_cases hh : s.holds vars item = true
        · simp only [if_pos hh, s.noteCondition_of_holds vars item p hh]
          have he := (s.perform_sameCourse vars item p).ending
          rcases hperf : s.perform vars item p with ⟨q, _ | m⟩
          · rw [hperf] at he
            exact ih hrest q (he ▸ hp)
          · obtain ⟨rfl, _, hr⟩ := perform_eq_some hperf
            rcases move_raised (m := { m with origin := .globalAction }) hn hitem hr q with
              ⟨_, hm, hm'⟩ | ⟨hm, hm'⟩ | ⟨hm, hover⟩
            · simp only [hm, hm']
              exact Or.inl ⟨rfl, hp⟩
            · simp only [hm, hm']
              exact ih hrest q hp
            · simp only [hm]
              refine Or.inr ?_
              revert hover
              rcases (s.withLimit n).move item { m with origin := .globalAction } q with
                ⟨q', _ | _ | _⟩
              · exact id
              · exact fun hover => hover.trans ((s.withLimit n).performGlobal_extends vars rest q')
              · exact id
        · simp only [if_neg hh]
          have he := (s.noteCondition_sameRecord vars item p).ending
          exact ih hrest _ (he ▸ hp)

end Lists

/-! ### Whole passes -/

/-- Two passes are over, and they are the same and not cut off, or the first is overtaken. -/
def KeepsEnd (s : Scene) (n : ℕ) (r r' : Pass × Except EngineError Unit) : Prop :=
  r' = r ∧ r.1.ending ≠ some .hopLimit ∨ r.2 = .ok () ∧ s.Overtakes n r.1 r'.1

/-- **Two loops under two limits.**  They visit the same statuses until the first is cut off. -/
theorem Ends.raised (hn : s.engine.settings.maxHops ≤ n) {k k' : ℕ}
    {r r' : Pass × Except EngineError Unit} (h : s.Ends k p r) (h' : (s.withLimit n).Ends k' p r')
    (hp : p.ending ≠ some .hopLimit) : s.KeepsEnd n r r' := by
  have visited : ∀ {p q : Pass} {status : Status} {v : Visit},
      s.graph.status? p.record.status = some status →
      s.visit (s.bindings p) status.items p = (q, v) → p.ending ≠ some .hopLimit →
      ((s.withLimit n).visit (s.bindings p) status.items p = (q, v) ∧ q.ending ≠ some .hopLimit) ∨
      (v = .halted ∧
        s.Overtakes n q ((s.withLimit n).visit (s.bindings p) status.items p).1) := by
    intro p q status v hs hv hp
    have h := visit_raised hn (fun item hi => Graph.item_mem_of_status? hs hi) (s.bindings p) p hp
    rw [hv] at h
    exact h
  -- along the loop under the lower limit; each visit says what the other loop does first
  induction h generalizing k' with
  | @lost p hs =>
      obtain ⟨_, rfl⟩ := h'.astray hs
      exact Or.inl ⟨rfl, hp⟩
  | @halted p q status hs hv =>
      rcases visited hs hv hp with ⟨hv', hq⟩ | ⟨_, hover⟩
      · rcases h'.entered hs hv' with ⟨_, _, rfl⟩ | ⟨hv, _⟩ | ⟨hv, _⟩
        · exact Or.inl ⟨rfl, hq⟩
        · cases hv
        · cases hv
      · exact Or.inr ⟨rfl, hover.trans (h'.extends_visit hs)⟩
  | @settled p q status hs hv =>
      rcases visited hs hv hp with ⟨hv', hq⟩ | ⟨hv, _⟩
      · rcases h'.entered hs hv' with ⟨hv, _⟩ | ⟨_, _, rfl⟩ | ⟨hv, _⟩
        · cases hv
        · exact Or.inl ⟨rfl, settle_ending status q⟩
        · cases hv
      · cases hv
  | @onward k p q status r hs hv _ ih =>
      rcases visited hs hv hp with ⟨hv', hq⟩ | ⟨hv, _⟩
      · rcases h'.entered hs hv' with ⟨hv, _⟩ | ⟨hv, _⟩ | ⟨_, _, _, hrest⟩
        · cases hv
        · cases hv
        · exact ih hrest hq
      · cases hv

theorem goOn_raised (hn : s.engine.settings.maxHops ≤ n) (h : s.Keeps n p p') :
    s.KeepsEnd n (s.goOn p) ((s.withLimit n).goOn p') := by
  rcases h with ⟨rfl, he⟩ | hover
  · unfold goOn
    rw [if_neg he, if_neg he]
    obtain ⟨k, _, hends⟩ := s.drive_ends (s.engine.settings.maxHops - p'.hops) p' (by omega)
    have hleft : n ≤ p'.hops + (n - p'.hops) := by omega
    obtain ⟨k', _, hends'⟩ := (s.withLimit n).drive_ends (n - p'.hops) p' hleft
    exact hends.raised hn hends' he
  · have hcut : s.goOn p = (p, .ok ()) := if_pos hover.ending
    rw [hcut]
    exact Or.inr ⟨rfl, hover.trans ((s.withLimit n).goOn_extends p')⟩

end Scene
end Docket
