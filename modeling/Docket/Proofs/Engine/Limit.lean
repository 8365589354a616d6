import Docket.Proofs.Engine.Overtake
import Docket.Proofs.Engine.WellFormed

/-! # Operations under a higher limit

The limit is there to cut off passes that would go on forever.  Whatever an operation does under a
limit, it does under a higher one as well, and a higher one only lets it go on.

* `Scene.KeepsReply` compares the replies under two limits, and `Scene.operate_keeps` says so of every
  operation: it is refused under both, or both open a pass and the first is kept or overtaken.
* `Scene.operate_raised` says that a higher limit never changes what has already happened.
* `Scene.operate_limited_next` says how far an operation that was cut off comes under the next limit:
  it makes one move more, unless the move that was cut off was a jump back with nothing marked. -/

namespace Docket

open Expression (Variables)

namespace Scene

variable {s : Scene} {vars : Variables} {item : Item} {items : List Item} {n : ℕ} {p p' r r' : Pass}

/-- Two replies are the same refusal, or those of two passes of which the first is kept. -/
inductive KeepsReply (s : Scene) (n : ℕ) : Reply Outcome → Reply Outcome → Prop
  | refused {p : Pass} {e : EngineError} : KeepsReply s n (refuse p e) (refuse p e)
  | opened {p p' : Pass} : s.Keeps n p p' →
      KeepsReply s n (finish (s.goOn p)) (finish ((s.withLimit n).goOn p'))

section Fire

variable (hn : s.engine.settings.maxHops ≤ n) (hi : item ∈ s.graph.workflow.items)
variable (hp : p.ending ≠ some .hopLimit)

include hn hi hp

theorem move_keeps {m : Move} (hr : item.route? = some (m.target, m.mark)) :
    s.Keeps n (s.move item m p).1 ((s.withLimit n).move item m p).1 := by
  rcases move_raised hn hi hr p with ⟨_, hm, hm'⟩ | ⟨hm, hm'⟩ | ⟨hm, hover⟩
  · rw [hm, hm']
    exact Or.inl ⟨rfl, hp⟩
  · rw [hm, hm']
    exact Or.inl ⟨rfl, hp⟩
  · rw [hm]
    exact Or.inr hover

/-- An edit at the very beginning is only cut off under the limit 0, and leaves a note then. -/
theorem applyEdit_keeps {edit : Edit} (ha : item.action = .edit edit) (form : Table Json)
    (h0 : p.hops = 0) :
    s.Keeps n (s.applyEdit item edit form p) ((s.withLimit n).applyEdit item edit form p) := by
  rw [applyEdit_eq, applyEdit_eq]
  cases ht : edit.target with
  | none => exact Or.inl ⟨rfl, hp⟩
  | some target =>
      simp only [moment_withLimit, noteEdit_withLimit]
      rcases move_raised (m := ⟨target, false, s.moment.origin⟩) hn hi (Item.route?_edit ha ht)
        (p.filledIn form) with ⟨_, hm, hm'⟩ | ⟨hm, hm'⟩ | ⟨hm, hover⟩
      · simp only [hm, hm']
        exact Or.inl ⟨rfl, hp⟩
      · simp only [hm, hm']
        exact Or.inl ⟨rfl, hp⟩
      · simp only [hm]
        have hzero : s.engine.settings.maxHops = 0 := by
          have hle : s.engine.settings.maxHops ≤ p.hops := hover.limit
          omega
        refine Or.inr ((hover.noteEdit hzero item).trans ?_)
        rcases (s.withLimit n).move item ⟨target, false, s.moment.origin⟩ (p.filledIn form) with
          ⟨q, _ | _ | _⟩
        · exact .refl q
        · exact s.noteEdit_extends item q
        · exact s.noteEdit_extends item q

/-- Firing an item at the very beginning is refused under both limits, or keeps the pass. -/
theorem fire_keeps (form : Table Json) (h0 : p.hops = 0) :
    (∃ e, s.fire item form p = .error e ∧ (s.withLimit n).fire item form p = .error e) ∨
    ∃ q q', s.fire item form p = .ok q ∧ (s.withLimit n).fire item form p = .ok q' ∧
      s.Keeps n q q' := by
  unfold fire
  cases ha : item.action with
  | choice choice =>
      simp only [admits_withLimit]
      split
      · exact Or.inr ⟨_, _, rfl, rfl, move_keeps hn hi hp (Item.route?_choice ha)⟩
      · exact Or.inl ⟨_, rfl, rfl⟩
  | edit edit =>
      simp only [admits_withLimit]
      split
      · cases form.names.find? fun field => !mayEdit edit field with
        | some field => exact Or.inl ⟨_, rfl, rfl⟩
        | none => exact Or.inr ⟨_, _, rfl, rfl, applyEdit_keeps hn hi hp ha form h0⟩
      · exact Or.inl ⟨_, rfl, rfl⟩
  | jump _ => exact Or.inl ⟨_, rfl, rfl⟩
  | dispatch _ => exact Or.inl ⟨_, rfl, rfl⟩
  | message _ => exact Or.inl ⟨_, rfl, rfl⟩
  | notify _ => exact Or.inl ⟨_, rfl, rfl⟩
  | changeRole _ _ => exact Or.inl ⟨_, rfl, rfl⟩

end Fire

theorem firstTriggered_withLimit (name : String) : (s.withLimit n).firstTriggered vars name items p =
    s.firstTriggered vars name items p := by
  induction items generalizing p with
  | nil => rfl
  | cons item rest ih =>
      unfold firstTriggered
      simp only [holds_withLimit, noteCondition_withLimit, ih]

section Operations

variable (record : Record) (world : World)

theorem run_keeps : s.KeepsReply n (s.run record world) ((s.withLimit n).run record world) := by
  unfold run
  simp only [begin?_withLimit]
  split
  · exact .refused
  · exact .opened (Or.inl ⟨rfl, start_ending record world⟩)

variable (hn : s.engine.settings.maxHops ≤ n)

include hn

theorem runItems_keeps {action : GlobalAction} (ha : action ∈ s.graph.workflow.globalActions)
    (hp : p.ending ≠ some .hopLimit) :
    s.KeepsReply n (s.runItems action p) ((s.withLimit n).runItems action p) := by
  have hitems : ∀ item ∈ action.items, item ∈ s.graph.workflow.items :=
    fun item hi => Workflow.mem_items_of_globalAction ha hi
  unfold runItems
  rw [statusOf_withLimit]
  split
  · exact .refused
  · exact .opened (performGlobal_raised hn hitems _ p hp)

theorem submit_keeps (id : String) (form : Table Json) :
    s.KeepsReply n (s.submit record world id form) ((s.withLimit n).submit record world id form) := by
  unfold submit
  simp only [begin?_withLimit, statusOf_withLimit, bindings_withLimit, holds_withLimit,
    noteCondition_withLimit]
  split
  · exact .refused
  · next item hchecked =>
    have hitem := item_of_checked hchecked
    split
    · have hnote := s.noteCondition_sameRecord (s.bindings (Pass.start record world)) item
        (Pass.start record world)
      have hne := start_ending record world
      rw [← hnote.ending] at hne
      rcases fire_keeps hn hitem hne form hnote.hops with
        ⟨e, he, he'⟩ | ⟨q, q', hq, hq', hkeeps⟩
      · simp only [he, he']
        exact .refused
      · simp only [hq, hq']
        exact .opened hkeeps
    · exact .refused

theorem trigger_keeps (name : String) :
    s.KeepsReply n (s.trigger record world name) ((s.withLimit n).trigger record world name) := by
  unfold trigger
  simp only [begin?_withLimit, statusOf_withLimit, bindings_withLimit, firstTriggered_withLimit,
    graph_withLimit]
  split
  · exact .refused
  · next status hchecked =>
    have hitems := items_of_checked hchecked
    have hl := s.firstTriggered_logged (s.bindings (Pass.start record world)) name status.items
      (Pass.start record world)
    have hne := start_ending record world
    rw [← hl.sameCourse.ending] at hne
    split
    · next q item jump hfirst =>
      rw [hfirst] at hne
      obtain ⟨hfind, ha, _⟩ := firstTriggered_eq_some hfirst
      have hitem := hitems item (List.mem_of_find?_eq_some hfind)
      exact .opened (move_keeps hn hitem hne (Item.route?_jump ha))
    · next q hfirst =>
      rw [hfirst] at hne
      split
      · exact .refused
      · next action ha =>
        exact runItems_keeps hn (List.mem_of_find?_eq_some ha) hne

theorem runGlobal_keeps (id : String) :
    s.KeepsReply n (s.runGlobal record world id) ((s.withLimit n).runGlobal record world id) := by
  unfold runGlobal
  simp only [begin?_withLimit, graph_withLimit, startedBy_withLimit]
  split
  · exact .refused
  · split
    · exact .refused
    · next action ha =>
      split
      · exact runItems_keeps hn (List.mem_of_find?_eq_some ha) (start_ending record world)
      · exact .refused

/-- **An operation under two limits.**  It is refused under both, or its pass is kept. -/
theorem operate_keeps (op : Operation) :
    s.KeepsReply n (s.operate op record world) ((s.withLimit n).operate op record world) := by
  cases op with
  | run => exact run_keeps record world
  | submit id form => exact submit_keeps record world hn id form
  | trigger name => exact trigger_keeps record world hn name
  | runGlobal id => exact runGlobal_keeps record world hn id

end Operations

/-! ### What a higher limit changes -/

/-- **Raising the limit never changes what has already happened.**  An operation that does not end at
the limit leaves the same record, directory, failure log and calls of the notifier under every higher
limit, and answers the same.  One that ends at the limit has left a beginning of the history that it
leaves under a higher limit. -/
theorem operate_raised (s : Scene) (op : Operation) (record : Record) (world : World) {low high : ℕ}
    (hlow : 1 ≤ low) (hhigh : low ≤ high) :
    ((∀ outcome, ((s.withLimit low).operate op record world).answer = .ok outcome →
        outcome.state ≠ .hopLimit) →
      (s.withLimit high).operate op record world = (s.withLimit low).operate op record world) ∧
    ∀ outcome, ((s.withLimit low).operate op record world).answer = .ok outcome →
      outcome.state = .hopLimit →
      ((s.withLimit low).operate op record world).record.history <+:
        ((s.withLimit high).operate op record world).record.history := by
  have h : (s.withLimit low).KeepsReply high ((s.withLimit low).operate op record world)
      ((s.withLimit high).operate op record world) := operate_keeps record world hhigh op
  generalize (s.withLimit low).operate op record world = reply at h
  generalize (s.withLimit high).operate op record world = reply' at h
  cases h with
  | refused => exact ⟨fun _ => rfl, fun outcome hok => by cases hok⟩
  | @opened p p' hkeeps =>
      rcases goOn_raised hhigh hkeeps with ⟨hsame, _⟩ | ⟨hok, hover⟩
      · have hsame : (s.withLimit high).goOn p' = (s.withLimit low).goOn p := hsame
        have hreply : finish ((s.withLimit high).goOn p') = finish ((s.withLimit low).goOn p) :=
          congrArg finish hsame
        exact ⟨fun _ => hreply, fun _ _ _ => hreply ▸ List.prefix_rfl⟩
      · refine ⟨fun hstate => ?_, fun _ _ _ => hover.history hlow⟩
        rcases hgo : (s.withLimit low).goOn p with ⟨q, e | ⟨⟩⟩
        · rw [hgo] at hok
          cases hok
        · rw [hgo] at hstate hover
          exact absurd (state_eq_hopLimit.mpr hover.ending) (hstate q.outcome rfl)

/-- A request that is sent out for advice comes back under every limit from 2 on, and one that goes in
a circle goes the same way under a higher limit. -/
theorem operate_raised_sample :
    ((Sample.scene "ada").withLimit 7).operate (.submit "ask" ∅) Sample.record Sample.world =
      ((Sample.scene "ada").withLimit 2).operate (.submit "ask" ∅) Sample.record Sample.world ∧
    ((Sample.circling true 2).operate .run Sample.record Sample.world).answer =
      .ok ⟨"draft", .hopLimit, 2, 1, []⟩ ∧
    ((Sample.circling true 2).operate .run Sample.record Sample.world).record.history <+:
      ((Sample.circling true 5).operate .run Sample.record Sample.world).record.history := by
  have hback : (((Sample.scene "ada").withLimit 2).operate (.submit "ask" ∅) Sample.record
      Sample.world).answer = .ok ⟨"draft", .suspended "ask", 2, 0, []⟩ := by decide +kernel
  have hcut : ((Sample.circling true 2).operate .run Sample.record Sample.world).answer =
      .ok ⟨"draft", .hopLimit, 2, 1, []⟩ := by decide +kernel
  refine ⟨?_, hcut, ?_⟩
  · refine (operate_raised (Sample.scene "ada") _ _ _ (by omega) (by omega)).1 fun outcome hok => ?_
    rw [hback] at hok
    cases hok
    simp
  · have hlow : 1 ≤ 2 := by omega
    have hhigh : 2 ≤ 5 := by omega
    exact (operate_raised (Sample.circling true 0) .run _ _ hlow hhigh).2 _ hcut rfl

/-- A jump back with nothing marked stays as long as moves are left, and is cut off like a move else. -/
theorem move_back_unmarked (s : Scene) (item : Item) (m : Move) (p : Pass) (ht : m.target = previous)
    (hm : p.record.marks = []) :
    ((s.move item m p).2 = .stayed ↔ p.hops < s.engine.settings.maxHops) ∧
      ((s.move item m p).2 = .limited ↔ s.engine.settings.maxHops ≤ p.hops) := by
  rcases s.move_cases item p m with ⟨hle, h⟩ | ⟨hlt, _, _, h⟩ | ⟨_, next, hl, _⟩
  · rw [h]
    exact ⟨iff_of_false (by simp) (Nat.not_lt.mpr hle), iff_of_true rfl hle⟩
  · rw [h]
    exact ⟨iff_of_true rfl hlt, iff_of_false (by simp) (Nat.not_le.mpr hlt)⟩
  · -- with nothing marked there is no place to go back to
    unfold Record.place at hl
    rw [hm] at hl
    cases hl with
    | onward _ hne => exact absurd ht hne

/-- A pass that is overtaken under the next limit has one move more there, or the item at which it was
cut off leads back and nothing is marked. -/
theorem Overtakes.next (h : s.Overtakes (s.engine.settings.maxHops + 1) r r')
    (hr : r.hops ≤ s.engine.settings.maxHops) (hr' : r'.hops ≤ s.engine.settings.maxHops + 1) :
    r'.hops = s.engine.settings.maxHops + 1 ∨
      r'.hops = s.engine.settings.maxHops ∧ r.record.marks = [] ∧
        ∃ item ∈ s.graph.workflow.items, (∃ mark, item.route? = some (previous, mark)) ∧
          r.world.log.latest? =
            some (Failure.id ⟨s.site r item, .limit s.engine.settings.maxHops⟩) := by
  have hlow := h.limit
  have hgrown := h.hops
  obtain ⟨item, hi, target, mark, hroute, hlatest, hlt | hout | ⟨rfl, hmarks⟩⟩ := h.asked
  · omega
  · omega
  · by_cases hnext : r'.hops = s.engine.settings.maxHops + 1
    · exact Or.inl hnext
    · exact Or.inr ⟨by omega, hmarks, item, hi, ⟨mark, hroute⟩, hlatest⟩

/-- **How far an operation comes that was cut off.**  Under the next limit it succeeds with one move
more, unless the move that was cut off was a jump back with nothing marked: such a jump is cut off at
the limit, and otherwise stays.  Then the operation may come to its end without another move. -/
theorem operate_limited_next (s : Scene) :
    (∀ op record world outcome, record.WellFormed s.graph →
      (s.operate op record world).answer = .ok outcome → outcome.state = .hopLimit →
      ∃ next, ((s.withLimit (s.engine.settings.maxHops + 1)).operate op record world).answer =
          .ok next ∧
        (next.hops = s.engine.settings.maxHops + 1 ∨
          next.hops = s.engine.settings.maxHops ∧ (s.operate op record world).record.marks = [] ∧
            ∃ item ∈ s.graph.workflow.items, (∃ mark, item.route? = some (previous, mark)) ∧
              (s.operate op record world).world.log.latest? = some (techId
                ⟨s.graph.id, some outcome.status, some item.id, some record.id⟩ .tooManyJumps
                ("too many jumps (limit " ++ toString s.engine.settings.maxHops ++ ")")))) ∧
    ∀ item m p, m.target = previous → p.record.marks = [] →
      ((s.move item m p).2 = .stayed ↔ p.hops < s.engine.settings.maxHops) ∧
        ((s.move item m p).2 = .limited ↔ s.engine.settings.maxHops ≤ p.hops) := by
  refine ⟨fun op record world outcome hw hok hlim => ?_, s.move_back_unmarked⟩
  have hkeeps := operate_keeps record world (Nat.le_succ s.engine.settings.maxHops) op
  have hserves : (s.withLimit (s.engine.settings.maxHops + 1)).Serves op record world :=
    serves_of_wellFormed hw
  have hknown := hserves.status_known
  have hmost : ∀ next, ((s.withLimit (s.engine.settings.maxHops + 1)).operate op record
      world).answer = .ok next → next.hops ≤ s.engine.settings.maxHops + 1 :=
    fun next h => operate_hops_le h
  have hle := operate_hops_le hok
  have hid := (s.operate_continues op record world).id_eq
  generalize s.operate op record world = reply at *
  generalize (s.withLimit (s.engine.settings.maxHops + 1)).operate op record world = reply' at *
  cases hkeeps with
  | refused => cases hok
  | @opened p p' hkeeps =>
      obtain ⟨_, rfl⟩ := finish_eq_ok.mp hok
      have hid : (s.goOn p).1.record.id = record.id := hid
      rcases goOn_raised (Nat.le_succ _) hkeeps with ⟨_, hne⟩ | ⟨_, hover⟩
      · exact absurd (state_eq_hopLimit.mp hlim) hne
      · rcases hgo : (s.withLimit (s.engine.settings.maxHops + 1)).goOn p' with ⟨q, e | ⟨⟩⟩
        · obtain ⟨_, rfl⟩ := goOn_eq_error hgo
          rw [hgo] at hknown
          exact absurd rfl (hknown _)
        · rw [hgo] at hmost hover
          refine ⟨q.outcome, rfl, ?_⟩
          have hnext := hover.next hle (hmost q.outcome rfl)
          rw [← hid]
          exact hnext

/-- The request that goes in a circle makes one move more under the next limit. -/
theorem operate_limited_next_sample :
    ∃ next, ((Sample.circling true 6).operate .run Sample.record Sample.world).answer = .ok next ∧
      next.hops = 6 := by
  have hw : Sample.record.WellFormed (Sample.circling true 5).graph :=
    Graph.create_wellFormed (Sample.circling true 5).graph _ _ _ _
  have hok : ((Sample.circling true 5).operate .run Sample.record Sample.world).answer =
      .ok ⟨"advice", .hopLimit, 5, 1, []⟩ := by decide +kernel
  have hmarks : ((Sample.circling true 5).operate .run Sample.record Sample.world).record.marks =
      ["draft"] := by decide +kernel
  obtain ⟨next, hnext, hhops | ⟨_, hnil, _⟩⟩ :=
    (operate_limited_next (Sample.circling true 5)).1 _ _ _ _ hw hok rfl
  · exact ⟨next, hnext, hhops⟩
  · rw [hmarks] at hnil
    cases hnil

/-- **A stay may be reported as a move too many.**  Without a mark the request goes out for advice in
one move and stays there.  Under the limit 1 it is cut off by the jump back that stays, and under the
limit 2 it still makes one move. -/
theorem operate_limited_stays :
    Sample.record.WellFormed (Sample.circling false 1).graph ∧
    ((Sample.circling false 1).operate .run Sample.record Sample.world).answer =
      .ok ⟨"advice", .hopLimit, 1, 1, []⟩ ∧
    ((Sample.circling false 2).operate .run Sample.record Sample.world).answer =
      .ok ⟨"advice", .waiting, 1, 0, []⟩ := by
  refine ⟨Graph.create_wellFormed (Sample.circling false 1).graph _ _ _ _, ?_, ?_⟩
  · decide +kernel
  · decide +kernel

end Scene
end Docket
