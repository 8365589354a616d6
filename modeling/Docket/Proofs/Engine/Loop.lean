import Docket.Proofs.Engine.Account
import Docket.Proofs.Engine.Lineage

/-! # Every pass comes to its end

A pass visits one status after the other until a visit does not move its record.  `Scene.Ends` says
what this loop comes to, and in how many visits, without a bound of any kind.  The loop that runs has
a bound, and `Scene.drive_ends` shows that the bound cuts nothing: a visit moves the record only as
long as moves are left, whatever the graph looks like and whatever is marked.

* `Scene.Ends.unique` says that the loop comes to one end only.
* `Scene.Opened.hops_le` says that a pass is opened with at most as many moves as the limit allows.
* `Scene.operate_terminates` is the statement about operations: they come to an end, within the
  limit, and exactly those that end at the limit record a failure for it, once. -/

namespace Docket

open Expression (Variables)

namespace Scene

variable {s : Scene} {op : Operation} {record : Record} {world : World} {p q : Pass}

/-! ### The loop over the statuses -/

/-- From a pass, the loop over the statuses comes to an end after a number of visits. -/
inductive Ends (s : Scene) : ℕ → Pass → Pass × Except EngineError Unit → Prop
  | lost {p : Pass} : s.graph.status? p.record.status = none →
      Ends s 0 p (p, .error (.unknownStatus p.record.status))
  | halted {p q : Pass} {status : Status} : s.graph.status? p.record.status = some status →
      s.visit (s.bindings p) status.items p = (q, .halted) → Ends s 1 p (q, .ok ())
  | settled {p q : Pass} {status : Status} : s.graph.status? p.record.status = some status →
      s.visit (s.bindings p) status.items p = (q, .through) →
      Ends s 1 p (settle status q, .ok ())
  | onward {n : ℕ} {p q : Pass} {status : Status} {r : Pass × Except EngineError Unit} :
      s.graph.status? p.record.status = some status →
      s.visit (s.bindings p) status.items p = (q, .moved) → Ends s n q r → Ends s (n + 1) p r

theorem Ends.astray {n : ℕ} {r : Pass × Except EngineError Unit} (h : s.Ends n p r)
    (hs : s.graph.status? p.record.status = none) :
    n = 0 ∧ r = (p, .error (.unknownStatus p.record.status)) := by
  cases h with
  | lost => exact ⟨rfl, rfl⟩
  | halted hs' | settled hs' | onward hs' => rw [hs] at hs'; cases hs'

/-- A loop that begins in a declared status goes on after the visit of the status, or does not. -/
theorem Ends.entered {n : ℕ} {r : Pass × Except EngineError Unit} {status : Status} {v : Visit}
    (h : s.Ends n p r) (hs : s.graph.status? p.record.status = some status)
    (hv : s.visit (s.bindings p) status.items p = (q, v)) :
    (v = .halted ∧ n = 1 ∧ r = (q, .ok ())) ∨ (v = .through ∧ n = 1 ∧ r = (settle status q, .ok ())) ∨
      (v = .moved ∧ ∃ m, n = m + 1 ∧ s.Ends m q r) := by
  cases h with
  | lost hs' => rw [hs] at hs'; cases hs'
  | halted hs' hv' =>
      rw [hs] at hs'
      cases hs'
      rw [hv] at hv'
      cases hv'
      exact Or.inl ⟨rfl, rfl, rfl⟩
  | settled hs' hv' =>
      rw [hs] at hs'
      cases hs'
      rw [hv] at hv'
      cases hv'
      exact Or.inr (Or.inl ⟨rfl, rfl, rfl⟩)
  | onward hs' hv' hrest =>
      rw [hs] at hs'
      cases hs'
      rw [hv] at hv'
      cases hv'
      exact Or.inr (Or.inr ⟨rfl, _, rfl, hrest⟩)

/-- The loop over the statuses comes to one end only. -/
theorem Ends.unique {n n' : ℕ} {r r' : Pass × Except EngineError Unit} (h : s.Ends n p r)
    (h' : s.Ends n' p r') : n' = n ∧ r' = r := by
  induction h generalizing n' with
  | lost hs => exact h'.astray hs
  | halted hs hv =>
      rcases h'.entered hs hv with ⟨_, hn, hr⟩ | ⟨hv, _⟩ | ⟨hv, _⟩
      · exact ⟨hn, hr⟩
      · cases hv
      · cases hv
  | settled hs hv =>
      rcases h'.entered hs hv with ⟨hv, _⟩ | ⟨_, hn, hr⟩ | ⟨hv, _⟩
      · cases hv
      · exact ⟨hn, hr⟩
      · cases hv
  | onward hs hv _ ih =>
      rcases h'.entered hs hv with ⟨hv, _⟩ | ⟨hv, _⟩ | ⟨_, m, rfl, hrest⟩
      · cases hv
      · cases hv
      · obtain ⟨rfl, hr⟩ := ih hrest
        exact ⟨rfl, hr⟩

/-- A visit that moves the record had a move left, and used it. -/
theorem visit_hops {vars : Variables} {items : List Item}
    (h : s.visit vars items p = (q, .moved)) :
    p.hops < s.engine.settings.maxHops ∧ q.hops = p.hops + 1 := by
  have hvisited := s.visit_visited vars items p
  rw [h] at hvisited
  cases hvisited with
  | @moved q' _ _ _ hb _ _ _ hlt _ =>
      rw [hb.hops] at hlt
      refine ⟨hlt, ?_⟩
      show q'.hops + 1 = p.hops + 1
      rw [hb.hops]

/-- **The bound cuts nothing.**  With as many visits as moves are left, the loop comes to its end. -/
theorem drive_ends (left : ℕ) (p : Pass) (h : s.engine.settings.maxHops ≤ p.hops + left) :
    ∃ n ≤ left + 1, s.Ends n p (s.drive left p) := by
  fun_induction Scene.drive s left p with
  | case1 left p hs => exact ⟨0, by omega, .lost hs⟩
  | case2 left p status hs q hv => exact ⟨1, by omega, .halted hs hv⟩
  | case3 left p status hs q hv => exact ⟨1, by omega, .settled hs hv⟩
  | case4 p status hs q hv =>
      obtain ⟨hlt, _⟩ := visit_hops hv
      omega
  | case5 p status hs q left hv ih =>
      obtain ⟨hlt, hq⟩ := visit_hops hv
      obtain ⟨n, hn, hends⟩ := ih (by omega)
      exact ⟨n + 1, by omega, .onward hs hv hends⟩

/-! ### The number of moves -/

theorem kept_hops (s : Scene) : s.Kept fun p => p.hops ≤ s.engine.settings.maxHops where
  sameCourse hb hp := by
    rw [hb.hops]
    exact hp
  ending _ hp := hp
  arrive _ _ _ hlt _ _ := hlt

theorem move_hops_le {item : Item} {m : Move} (hp : p.hops ≤ s.engine.settings.maxHops) :
    (s.move item m p).1.hops ≤ s.engine.settings.maxHops := by
  rcases s.move_cases item p m with ⟨_, hm⟩ | ⟨_, _, _, hm⟩ | ⟨hlt, _, _, hm⟩
  · rw [hm]; exact hp
  · rw [hm]; exact hp
  · rw [hm]; exact hlt

theorem applyEdit_hops_le {item : Item} {edit : Edit} {form : Table Json}
    (hp : p.hops ≤ s.engine.settings.maxHops) :
    (s.applyEdit item edit form p).hops ≤ s.engine.settings.maxHops := by
  have h := s.applyEdit_edited item edit form p
  generalize s.applyEdit item edit form p = q at h
  cases h with
  | noted => exact hp
  | limited => exact hp
  | moved _ hlt => exact hlt

theorem performGlobal_hops_le {vars : Variables} {items : List Item}
    (hp : p.hops ≤ s.engine.settings.maxHops) :
    (s.performGlobal vars items p).hops ≤ s.engine.settings.maxHops := by
  have h := s.performGlobal_performed vars items p
  generalize s.performGlobal vars items p = q at h
  cases h with
  | through hb => exact hb.hops ▸ hp
  | moved _ _ _ _ hlt => exact hlt
  | @limited q' _ _ hb =>
      show q'.hops ≤ _
      exact hb.hops ▸ hp

theorem Opened.hops_le (h : s.Opened record world op p) :
    p.hops ≤ s.engine.settings.maxHops := by
  have hstart : (Pass.start record world).hops ≤ s.engine.settings.maxHops := Nat.zero_le _
  cases h with
  | alone => exact hstart
  | chosen => exact move_hops_le hstart
  | edited => exact applyEdit_hops_le hstart
  | triggered _ _ _ hl => exact move_hops_le (hl.sameCourse.hops ▸ hstart)
  | answered _ _ _ hl => exact performGlobal_hops_le (hl.sameCourse.hops ▸ hstart)
  | commanded => exact performGlobal_hops_le hstart

/-! ### Operations -/

/-- What an operation comes to, after a number of visits and without a bound on them: it is refused,
or what opens its pass ends it at the limit, or the loop over the statuses comes to an end. -/
inductive Completes (s : Scene) (record : Record) (world : World) (op : Operation) :
    ℕ → Reply Outcome → Prop
  | refused {p : Pass} {e : EngineError} : (Pass.start record world).Logged p →
      s.Refused record world op e → Completes s record world op 0 (refuse p e)
  | limited {p : Pass} : record.workflowId = s.graph.id → s.Opened record world op p →
      p.ending = some .hopLimit → Completes s record world op 0 (finish (p, .ok ()))
  | ended {n : ℕ} {p : Pass} {r : Pass × Except EngineError Unit} :
      record.workflowId = s.graph.id → s.Opened record world op p → p.ending ≠ some .hopLimit →
      s.Ends n p r → Completes s record world op n (finish r)

theorem operate_completes (s : Scene) (op : Operation) (record : Record) (world : World) :
    ∃ n ≤ s.engine.settings.maxHops + 1,
      s.Completes record world op n (s.operate op record world) := by
  have h := s.operate_operated op record world
  generalize s.operate op record world = reply at h
  cases h with
  | refused hl hr => exact ⟨0, Nat.zero_le _, .refused hl hr⟩
  | @opened p hw ho =>
      unfold goOn
      by_cases hp : p.ending = some .hopLimit
      · rw [if_pos hp]
        exact ⟨0, Nat.zero_le _, .limited hw ho hp⟩
      · rw [if_neg hp]
        obtain ⟨n, hn, hends⟩ :=
          s.drive_ends (s.engine.settings.maxHops - p.hops) p (by omega)
        exact ⟨n, by omega, .ended hw ho hp hends⟩

theorem operate_hops_le {outcome : Outcome}
    (hok : (s.operate op record world).answer = .ok outcome) :
    outcome.hops ≤ s.engine.settings.maxHops := by
  have h := s.operate_operated op record world
  generalize s.operate op record world = reply at h hok
  cases h with
  | refused => cases hok
  | @opened p _ ho =>
      obtain ⟨_, rfl⟩ := finish_eq_ok.mp hok
      exact s.kept_hops.goOn ho.hops_le

theorem Accounts.gains (h : s.Accounts p q) :
    (q.ending ≠ some .hopLimit → FailureLog.Gains .tooManyJumps [] p.world.log q.world.log) ∧
    (q.ending = some .hopLimit → ∃ item ∈ s.graph.workflow.items, FailureLog.Gains .tooManyJumps
      [Failure.id ⟨s.site q item, .limit s.engine.settings.maxHops⟩] p.world.log q.world.log) := by
  obtain ⟨fs, tail, hn, hfs, hc⟩ := h
  have hne : ∀ f ∈ fs, f.cause.kind ≠ .tooManyJumps := by
    intro f hf
    obtain ⟨_, _, _, harises⟩ := hfs f hf
    exact harises.kind_ne
  have hgains : FailureLog.Gains .tooManyJumps [] p.world.log
      (p.world.log.recordAll s.moment.now fs) := FailureLog.gains_recordAll_of_ne hne
  have hlog := hn.log
  rw [FailureLog.recordAll_append] at hlog
  rw [hlog]
  cases hc with
  | inside hq => exact ⟨fun _ => hgains, fun he => absurd he hq⟩
  | @limited item hi hq =>
      refine ⟨fun he => absurd hq he, fun _ => ⟨item, hi, ?_⟩⟩
      exact hgains.trans (FailureLog.gains_record _ _ _ _ _)

theorem state_eq_hopLimit {q : Pass} : q.outcome.state = .hopLimit ↔ q.ending = some .hopLimit := by
  show q.ending.getD .waiting = .hopLimit ↔ _
  cases q.ending with
  | none => simp
  | some e => simp

/-- **Every operation comes to an end within the limit.**  Without any bound on its loop, it is
refused or done after at most one visit more than the limit.  If it succeeds, it has made at most as
many moves as the limit allows.  If it ends at the limit, it has recorded one failure for that, about
the item that asked for a move, and else none. -/
theorem operate_terminates (s : Scene) (op : Operation) (record : Record) (world : World) :
    (∃ n ≤ s.engine.settings.maxHops + 1,
      s.Completes record world op n (s.operate op record world)) ∧
    ∀ outcome, (s.operate op record world).answer = .ok outcome →
      outcome.hops ≤ s.engine.settings.maxHops ∧
      (outcome.state ≠ .hopLimit → FailureLog.Gains .tooManyJumps [] world.log
        (s.operate op record world).world.log) ∧
      (outcome.state = .hopLimit → ∃ item ∈ s.graph.workflow.items,
        FailureLog.Gains .tooManyJumps
          [techId ⟨s.graph.id, some outcome.status, some item.id, some record.id⟩ .tooManyJumps
            ("too many jumps (limit " ++ toString s.engine.settings.maxHops ++ ")")]
          world.log (s.operate op record world).world.log) := by
  refine ⟨s.operate_completes op record world, fun outcome hok => ⟨operate_hops_le hok, ?_⟩⟩
  have hid := (s.operate_continues op record world).id_eq
  have h := s.operate_accounted op record world
  generalize s.operate op record world = reply at h hok hid
  cases h with
  | refused => cases hok
  | @finished r h =>
      obtain ⟨_, rfl⟩ := finish_eq_ok.mp hok
      have hid : r.1.record.id = record.id := hid
      obtain ⟨hinside, hlimited⟩ := h.gains
      rw [Ne, state_eq_hopLimit, ← hid]
      exact ⟨hinside, hlimited⟩

end Scene

/-! ### A circle -/

namespace Sample

/-- A request that goes out for advice by itself, with or without a mark, and comes right back if it
was marked. -/
def circle (mark : Bool) : Workflow where
  id := "request"
  name := "Request"
  initial := "draft"
  statuses := [
    ⟨"draft", "Draft", [item "out" (.jump ⟨"advice", mark, .immediate⟩)], false⟩,
    ⟨"advice", "Advice", [item "back" (.jump ⟨previous, false, .immediate⟩)], false⟩]
  functions := ∅
  globalActions := []

theorem circle_check (mark : Bool) : (circle mark).check .default = .ok () := by
  cases mark with
  | false => decide +kernel
  | true => decide +kernel

/-- The scene in which nobody acts on such a request, under a limit. -/
def circling (mark : Bool) (maxHops : ℕ) : Scene :=
  ⟨.ofSettings { EngineSettings.default with maxHops } .accepting,
    ⟨.default, circle mark, circle_check mark⟩, ⟨none, .automatic, now, ∅⟩⟩

end Sample

namespace Scene

/-- The request goes in a circle until the limit, and one failure says so. -/
theorem operate_terminates_sample :
    ((Sample.circling true 5).operate .run Sample.record Sample.world).answer =
      .ok ⟨"advice", .hopLimit, 5, 1, []⟩ ∧
    (∃ n ≤ 6, (Sample.circling true 5).Completes Sample.record Sample.world .run n
      ((Sample.circling true 5).operate .run Sample.record Sample.world)) ∧
    ∃ item ∈ (Sample.circle true).items, FailureLog.Gains .tooManyJumps
      [techId ⟨"request", some "advice", some item.id, some .nil⟩ .tooManyJumps
        "too many jumps (limit 5)"] .empty
      ((Sample.circling true 5).operate .run Sample.record Sample.world).world.log := by
  have hanswer : ((Sample.circling true 5).operate .run Sample.record Sample.world).answer =
      .ok ⟨"advice", .hopLimit, 5, 1, []⟩ := by decide +kernel
  obtain ⟨hends, hok⟩ := operate_terminates (Sample.circling true 5) .run Sample.record Sample.world
  exact ⟨hanswer, hends, (hok _ hanswer).2.2 rfl⟩

end Scene
end Docket
