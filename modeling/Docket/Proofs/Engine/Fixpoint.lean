import Docket.Proofs.Engine.Loop
import Docket.Proofs.Engine.Report

/-! # A pass comes to a fixpoint

When a pass has come to its end, a pass that begins right after it finds everything as the last
visit of the first pass found it: the same variables, the same distance in time, the same marks.  So
it does what that visit did, and moves nothing.

* `Pass.Again` relates a pass in which a status was visited to one that visits the status again,
  with the same record and no more moves behind it.
* `Scene.visit_again` is the step: a visit that does not move the record and does not reach the
  limit is repeated, with jumps that stay and timeouts that are not over.  Its status must not have
  a dispatch, which changes what conditions see after they were looked at.
* `Scene.operate_fixpoint` is the statement about operations. -/

namespace Docket

open Expression (Variables)

/-- `q` has the record of `p` and no more moves behind it. -/
structure Pass.Again (p q : Pass) : Prop where
  record : q.record = p.record
  hops : q.hops ≤ p.hops

theorem Pass.Again.sameRecord {p p' q q' : Pass} (h : p.Again q) (hp : p.SameRecord p')
    (hq : q.SameRecord q') : p'.Again q' := by
  refine ⟨?_, ?_⟩
  · rw [hq.record, hp.record, h.record]
  · rw [hq.hops, hp.hops]
    exact h.hops

namespace Scene

variable {s : Scene} {vars : Variables} {item : Item} {items : List Item} {p q r : Pass}

/-! ### Moves -/

theorem perform_move_eq (s : Scene) (vars : Variables) (item : Item) (h : p.Again q) :
    (s.perform vars item q).2 = (s.perform vars item p).2 := by
  unfold perform
  cases item.action with
  | jump jump =>
      show s.jumpMove q jump = s.jumpMove p jump
      unfold jumpMove
      rw [h.record]
  | _ => rfl

theorem move_limited_ending {m : Move} (h : s.move item m p = (q, .limited)) :
    q.ending = some .hopLimit := by
  rcases s.move_cases item p m with ⟨_, hm⟩ | ⟨_, _, _, hm⟩ | ⟨_, _, _, hm⟩
  · rw [hm] at h
    cases h
    rfl
  · rw [hm] at h
    cases h
  · rw [hm] at h
    cases h

theorem move_stays_again {m : Move} (h : p.Again q) (hmove : s.move item m p = (r, .stayed)) :
    r = p ∧ s.move item m q = (q, .stayed) := by
  rcases s.move_cases item p m with ⟨_, hm⟩ | ⟨hlt, ht, hmarks, hm⟩ | ⟨_, _, _, hm⟩
  · rw [hm] at hmove
    cases hmove
  · rw [hm] at hmove
    cases hmove
    refine ⟨rfl, ?_⟩
    rcases s.move_cases item q m with ⟨hle, _⟩ | ⟨_, _, _, hq⟩ | ⟨_, next, hl, _⟩
    · have hhops := h.hops
      omega
    · exact hq
    · -- with nothing marked there is no place to go back to
      rw [h.record] at hl
      unfold Record.place at hl
      rw [hmarks] at hl
      cases hl with
      | onward _ hne => exact absurd ht hne
  · rw [hm] at hmove
    cases hmove

/-! ### Visits -/

/-- A visit that began with `q` and came to `q'` has ended like the one that came to `r`, and left
the record of `q` alone. -/
structure Repeats (r : Pass) (v : Visit) (q q' : Pass) : Prop where
  record : q'.record = q.record
  hops : q'.hops = q.hops
  ending : v = .halted → q'.ending = r.ending

/-- **A visit that does not move the record is repeated.** -/
theorem visit_again {v : Visit} (hvisit : s.visit vars items p = (r, v)) (hv : v ≠ .moved)
    (hend : v = .halted → r.ending ≠ some .hopLimit)
    (hall : ∀ item ∈ items, item.isDispatch = false) (h : p.Again q) :
    ∃ q', s.visit vars items q = (q', v) ∧ Repeats r v q q' := by
  induction items generalizing p q with
  | nil => cases hvisit; exact ⟨q, rfl, rfl, rfl, fun h => by cases h⟩
  | cons item rest ih =>
      obtain ⟨hitem, hrest⟩ := List.forall_mem_cons.mp hall
      -- the rest of the items, after effects outside of the records
      have onward : ∀ {p' q' : Pass}, s.visit vars rest p' = (r, v) → p.SameRecord p' →
          q.SameRecord q' → ∃ q'', s.visit vars rest q' = (q'', v) ∧ Repeats r v q q'' := by
        intro p' q' hvisit' hp hq
        obtain ⟨q'', hq'', hrecord, hhops, hending⟩ := ih hvisit' hrest (h.sameRecord hp hq)
        exact ⟨q'', hq'', hrecord.trans hq.record, hhops.trans hq.hops, hending⟩
      unfold visit at hvisit ⊢
      simp only at hvisit ⊢
      cases hh : s.holds vars item with
      | false =>
          rw [hh, if_neg Bool.false_ne_true] at hvisit
          rw [if_neg Bool.false_ne_true]
          exact onward hvisit (s.noteCondition_sameRecord vars item p)
            (s.noteCondition_sameRecord vars item q)
      | true =>
          rw [hh, if_pos rfl, s.noteCondition_of_holds vars item p hh] at hvisit
          rw [if_pos rfl, s.noteCondition_of_holds vars item q hh]
          cases hint : item.isInteractive with
          | true =>
              rw [hint, if_pos rfl] at hvisit
              cases hvisit
              exact ⟨_, rfl, rfl, rfl, fun _ => rfl⟩
          | false =>
              rw [hint, if_neg Bool.false_ne_true] at hvisit
              rw [if_neg Bool.false_ne_true]
              have hp := s.perform_sameRecord vars item p hitem
              have hq := s.perform_sameRecord vars item q hitem
              have hmoves := perform_move_eq s vars item h
              rcases hperf : s.perform vars item p with ⟨p', m⟩
              rcases hperf' : s.perform vars item q with ⟨q', m'⟩
              rw [hperf] at hp hmoves hvisit
              rw [hperf'] at hq hmoves
              cases hmoves
              cases m with
              | none => exact onward hvisit hp hq
              | some m =>
                  rcases hmove : s.move item m p' with ⟨p'', result⟩
                  simp only [hmove] at hvisit
                  cases result with
                  | moved => cases hvisit; exact absurd rfl hv
                  | limited => cases hvisit; exact absurd (move_limited_ending hmove) (hend rfl)
                  | stayed =>
                      obtain ⟨rfl, hstay⟩ := move_stays_again (h.sameRecord hp hq) hmove
                      simp only [hstay]
                      exact onward hvisit hp hq

/-! ### Whole passes -/

/-- **Where a pass has come to its end, one more visit comes to the same end.** -/
theorem Ends.again {n : ℕ} {status : Status} (h : s.Ends n p (r, .ok ()))
    (hend : r.ending ≠ some .hopLimit) (hs : s.graph.status? r.record.status = some status)
    (hall : ∀ item ∈ status.items, item.isDispatch = false) (hrecord : q.record = r.record)
    (hhops : q.hops = 0) :
    ∃ q', s.Ends 1 q (q', .ok ()) ∧ q'.record = r.record ∧ q'.hops = 0 ∧ q'.ending = r.ending := by
  -- the visit of a status that ends the pass, and its repetition
  have last : ∀ {p r' : Pass} {final : Status} {v : Visit}, v ≠ .moved →
      s.graph.status? p.record.status = some final →
      s.visit (s.bindings p) final.items p = (r', v) → r'.record = r.record →
      (v = .halted → r'.ending ≠ some .hopLimit) →
      s.graph.status? q.record.status = some final ∧
        ∃ q', s.visit (s.bindings q) final.items q = (q', v) ∧ Repeats r' v q q' := by
    intro p r' final v hv hfinal hvisit hr' hlim
    obtain ⟨hb, hd⟩ := visit_record hvisit hv
    have hstatus : r'.record.status = p.record.status := by rw [hb]
    rw [← hstatus, hr', hs] at hfinal
    cases hfinal
    have hp : q.record = p.record := by rw [hrecord, ← hr', hd hall]
    have hbindings : s.bindings q = s.bindings p := by
      unfold bindings
      rw [hp]
    rw [hbindings, hrecord]
    exact ⟨hs, visit_again hvisit hv hlim hall ⟨hp, by omega⟩⟩
  generalize hres : (r, (.ok () : Except EngineError Unit)) = res at h
  induction h with
  | lost => cases hres
  | onward _ _ _ ih => exact ih hres
  | halted hfinal hvisit =>
      cases hres
      obtain ⟨hq, q', hvisit', hrep⟩ := last (by simp) hfinal hvisit rfl fun _ => hend
      exact ⟨q', .halted hq hvisit', hrep.record.trans hrecord, hrep.hops.trans hhops,
        hrep.ending rfl⟩
  | settled hfinal hvisit =>
      cases hres
      obtain ⟨hq, q', hvisit', hrep⟩ := last (by simp) hfinal hvisit rfl fun h => by cases h
      exact ⟨_, .settled hq hvisit', hrep.record.trans hrecord, hrep.hops.trans hhops, rfl⟩

theorem goOn_again {n : ℕ} {status : Status} (h : s.Ends n p (r, .ok ()))
    (hend : r.ending ≠ some .hopLimit) (hs : s.graph.status? r.record.status = some status)
    (hall : ∀ item ∈ status.items, item.isDispatch = false) (world : World) :
    ∃ q, s.goOn (Pass.start r.record world) = (q, .ok ()) ∧ q.record = r.record ∧ q.hops = 0 ∧
      q.ending = r.ending := by
  obtain ⟨q, hends, hq⟩ := h.again hend hs hall (q := Pass.start r.record world) rfl rfl
  obtain ⟨m, -, hdrive⟩ := s.drive_ends s.engine.settings.maxHops (Pass.start r.record world)
    (Nat.le_add_left _ _)
  exact ⟨q, (hends.unique hdrive).2, hq⟩

/-! ### Operations -/

/-- **Where an operation has come to its end, a run changes nothing.**  If the status that the
record is in has no dispatch, a run at the same moment leaves the record as it is, without a move,
and reports the same state.  This holds of a run after a run, whatever the directory is by then. -/
theorem operate_fixpoint {op : Operation} {record : Record} {world : World} {outcome : Outcome}
    {status : Status} (hok : (s.operate op record world).answer = .ok outcome)
    (hstate : outcome.state ≠ .hopLimit) (hs : s.graph.status? outcome.status = some status)
    (hall : ∀ item ∈ status.items, item.isDispatch = false) (world' : World) :
    (s.run (s.operate op record world).record world').record = (s.operate op record world).record ∧
    ∃ again, (s.run (s.operate op record world).record world').answer = .ok again ∧
      again.hops = 0 ∧ again.state = outcome.state ∧ again.status = outcome.status := by
  obtain ⟨n, -, h⟩ := s.operate_completes op record world
  have hid := (s.operate_continues op record world).workflowId_eq
  generalize s.operate op record world = reply at h hok hid
  cases h with
  | refused => cases hok
  | limited _ _ hlim =>
      cases hok
      exact absurd (state_eq_hopLimit.mpr hlim) hstate
  | @ended n p r hw _ _ hends =>
      obtain ⟨r, e | ⟨⟩⟩ := r
      · cases hok
      · cases hok
        have hend : r.ending ≠ some .hopLimit := mt state_eq_hopLimit.mpr hstate
        obtain ⟨q, hgo, hrecord, hhops, hending⟩ := goOn_again hends hend hs hall world'
        have hbegin : s.begin? r.record = .ok () := begin?_eq_ok (hid.trans hw)
        have hrun : s.run r.record world' = finish (q, .ok ()) := by
          unfold run
          simp only [hbegin, hgo]
        show (s.run r.record world').record = r.record ∧
          ∃ again, (s.run r.record world').answer = .ok again ∧ _
        rw [hrun]
        refine ⟨hrecord, q.outcome, rfl, hhops, ?_, congrArg Record.status hrecord⟩
        exact congrArg (·.getD .waiting) hending

/-- Without a mark the request goes out for advice and stays there, and a run that follows leaves it
there. -/
theorem operate_fixpoint_sample :
    ((Sample.circling false 5).operate .run Sample.record Sample.world).answer =
      .ok ⟨"advice", .waiting, 1, 0, []⟩ ∧
    ((Sample.circling false 5).run
        ((Sample.circling false 5).operate .run Sample.record Sample.world).record
        Sample.world).record =
      ((Sample.circling false 5).operate .run Sample.record Sample.world).record := by
  have hok : ((Sample.circling false 5).operate .run Sample.record Sample.world).answer =
      .ok ⟨"advice", .waiting, 1, 0, []⟩ := by decide +kernel
  have hs : (Sample.circling false 5).graph.status? "advice" =
      some ⟨"advice", "Advice", [Sample.item "back" (.jump ⟨previous, false, .immediate⟩)],
        false⟩ := by decide +kernel
  exact ⟨hok, (operate_fixpoint hok (by simp) hs (by simp [Sample.item, Item.isDispatch])
    Sample.world).1⟩

end Scene
end Docket
