import Docket.Proofs.Engine.Operation

/-! # Records stay well-formed

A record is well-formed for a graph when it belongs to the graph's workflow and its status and all
its marks are declared.  Nothing in a pass checks the target of a move, so this rests on what a
loaded graph guarantees: the target of every item is declared or the jump back, and a jump back
leads to a mark.

* `Leads.stands` is the step: a move between a declared target and declared marks leads to such a
  place again.
* `Scene.lasting_wellFormed` is the invariant of passes, however they are opened, and
  `Scene.serves_of_wellFormed` that of operations, which then find the status that they look for.
* `Graph.wellFormed_lasts` says it of all operations one after the other, from creation on. -/

namespace Docket

structure Graph.Stands (g : Graph) (a : Place) : Prop where
  status : g.Declares a.status
  marks : ∀ m ∈ a.marks, g.Declares m

/-- The record belongs to the graph's workflow, and its status and its marks are declared. -/
structure Record.WellFormed (g : Graph) (r : Record) : Prop where
  workflow : r.workflowId = g.id
  status : g.Declares r.status
  marks : ∀ m ∈ r.marks, g.Declares m

theorem Record.wellFormed_iff {g : Graph} {r : Record} :
    r.WellFormed g ↔ r.workflowId = g.id ∧ g.Stands r.place :=
  ⟨fun h => ⟨h.workflow, h.status, h.marks⟩, fun h => ⟨h.1, h.2.status, h.2.marks⟩⟩

theorem Leads.stands {g : Graph} {target : String} {mark : Bool} {a b : Place}
    (h : Leads target mark a b) (ht : target = previous ∨ g.Declares target) (ha : g.Stands a) :
    g.Stands b := by
  obtain ⟨hs, hm⟩ := h.within (K := g.Declares) ht.resolve_left ⟨ha.status, ha.marks⟩
  exact ⟨hs, hm⟩

theorem Graph.create_wellFormed (g : Graph) (id : Uuid) (now : Instant) (data : Table Json)
    (submitter : Option String) : (Record.create g.workflow id now data submitter).WellFormed g :=
  ⟨rfl, g.declares_initial, fun _ hm => absurd hm List.not_mem_nil⟩

namespace Scene

variable {s : Scene} {p q : Pass} {item : Item}

theorem wellFormed_of_sameCourse (h : p.SameCourse q) (hp : p.record.WellFormed s.graph) :
    q.record.WellFormed s.graph := by
  rw [Record.wellFormed_iff] at hp ⊢
  rw [h.workflowId, h.place]
  exact hp

theorem wellFormed_arrive {origin : Origin} {target : String} {mark : Bool} {next : Place}
    (hi : item ∈ s.graph.workflow.items) (hr : item.route? = some (target, mark))
    (hl : Leads target mark p.record.place next) (hp : p.record.WellFormed s.graph) :
    (s.arrive item p origin next).record.WellFormed s.graph := by
  rw [Record.wellFormed_iff] at hp ⊢
  exact ⟨hp.1, hl.stands (Graph.target_declared hi hr) hp.2⟩

/-- **Records stay well-formed whatever is done.** -/
theorem lasting_wellFormed (s : Scene) : s.Lasting fun p => p.record.WellFormed s.graph where
  sameCourse := wellFormed_of_sameCourse
  ending _ hp := hp
  arrive _ := wellFormed_arrive
  filledIn _ hp := ⟨hp.workflow, hp.status, hp.marks⟩
  noteEdit _ hp := ⟨hp.workflow, hp.status, hp.marks⟩

/-! ### Operations -/

variable {op : Operation} {record : Record} {world : World}

/-- What an operation does for a well-formed record: it leaves it well-formed and finds the workflow
and the status that it looks for. -/
structure Serves (s : Scene) (op : Operation) (record : Record) (world : World) : Prop where
  wellFormed : (s.operate op record world).record.WellFormed s.graph
  run_ok : op = .run → ∃ outcome, (s.operate op record world).answer = .ok outcome
  status_known : ∀ id, (s.operate op record world).answer ≠ .error (.unknownStatus id)
  workflow_known : ∀ expected found,
    (s.operate op record world).answer ≠ .error (.workflowMismatch expected found)

/-- A refusal of a well-formed record is one that the person who acts is told, and never of `run`. -/
theorem Refused.of_wellFormed {e : EngineError} (h : s.Refused record world op e)
    (hr : record.WellFormed s.graph) : op ≠ .run ∧ e.isUserVisible = true := by
  obtain ⟨status, hs⟩ := Graph.exists_status?_iff.mpr hr.status
  cases h with
  | foreign hw => exact absurd hr.workflow hw
  | astray _ hn => rw [hs] at hn; cases hn
  | _ => exact ⟨by simp, rfl⟩

theorem serves_of_wellFormed (hr : record.WellFormed s.graph) : s.Serves op record world := by
  have h := s.operate_operated op record world
  generalize hreply : s.operate op record world = reply at h
  cases h with
  | @refused p e hl href =>
      obtain ⟨hop, hv⟩ := href.of_wellFormed hr
      constructor
      · rw [hreply]
        show p.record.WellFormed s.graph
        rw [hl.record]
        exact hr
      · intro h; exact absurd h hop
      · intro id h
        rw [hreply] at h
        cases h
        cases hv
      · intro expected found h
        rw [hreply] at h
        cases h
        cases hv
  | @opened p _ hopen =>
      have hp := s.lasting_wellFormed.goOn hopen hr
      rcases hgo : s.goOn p with ⟨q, e | u⟩
      · obtain ⟨hnone, _⟩ := goOn_eq_error hgo
        rw [hgo] at hp
        obtain ⟨status, hs⟩ := Graph.exists_status?_iff.mpr hp.status
        rw [hnone] at hs
        cases hs
      · rw [hgo] at hp hreply
        constructor
        · rw [hreply]; exact hp
        · intro _; exact ⟨q.outcome, by rw [hreply]; rfl⟩
        · intro id h; rw [hreply] at h; cases h
        · intro expected found h; rw [hreply] at h; cases h

end Scene

/-! ### Operations one after the other -/

/-- The records that a graph's records become from their creation on, by operations of any kind at
any moment, in any world and with any engine. -/
inductive Graph.Reaches (g : Graph) : Record → Prop
  | created (id : Uuid) (now : Instant) (data : Table Json) (submitter : Option String) :
      Reaches g (Record.create g.workflow id now data submitter)
  | operated {record : Record} (engine : Engine) (moment : Moment) (op : Operation) (world : World) :
      Reaches g record → Reaches g ((Scene.mk engine g moment).operate op record world).record

theorem Graph.Reaches.wellFormed {g : Graph} {record : Record} (h : g.Reaches record) :
    record.WellFormed g := by
  induction h with
  | created id now data submitter => exact g.create_wellFormed id now data submitter
  | operated engine moment op world _ ih =>
      exact (Scene.serves_of_wellFormed (s := ⟨engine, g, moment⟩) ih).wellFormed

/-- **Records of a loaded workflow are well-formed from their creation on.**  A fresh record is
well-formed; an operation on a well-formed record serves it, whatever the engine, the moment and the
world are; and so it goes on for every record that operations lead to. -/
theorem Graph.wellFormed_lasts (g : Graph) :
    (∀ id now data submitter, (Record.create g.workflow id now data submitter).WellFormed g) ∧
    (∀ engine moment op record world, record.WellFormed g →
      (Scene.mk engine g moment).Serves op record world) ∧
    ∀ record, g.Reaches record → record.WellFormed g ∧ ∀ engine moment op world,
      (Scene.mk engine g moment).Serves op record world := by
  refine ⟨g.create_wellFormed, fun engine moment op record world hr => ?_, fun record hr => ?_⟩
  · exact Scene.serves_of_wellFormed hr
  · exact ⟨hr.wellFormed, fun engine moment op world => Scene.serves_of_wellFormed hr.wellFormed⟩

/-- The request of the small workflow, sent out for advice and back again. -/
theorem Graph.wellFormed_lasts_sample :
    Sample.record.WellFormed Sample.graph ∧
    (Sample.scene "bob").Serves (.trigger "withdrawn") Sample.record Sample.world ∧
    Sample.graph.Reaches
      ((Sample.scene "ada").operate (.submit "ask" ∅) Sample.record Sample.world).record ∧
    (Sample.scene "ada").Serves .run
      ((Sample.scene "ada").operate (.submit "ask" ∅) Sample.record Sample.world).record
      Sample.world := by
  have hr : Sample.graph.Reaches
      ((Sample.scene "ada").operate (.submit "ask" ∅) Sample.record Sample.world).record :=
    .operated _ _ _ _ (.created _ _ _ _)
  have h := Sample.graph.wellFormed_lasts
  have hs : Sample.record.WellFormed Sample.graph := h.1 _ _ _ _
  exact ⟨hs, h.2.1 _ _ _ _ _ hs, hr, (h.2.2 _ hr).2 _ _ _ _⟩

end Docket
