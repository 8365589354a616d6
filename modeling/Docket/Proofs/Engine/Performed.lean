import Docket.Proofs.Engine.Loop
import Docket.Proofs.Engine.Report

/-! # What an operation performs

Not every item of a workflow is performed, and one that is performed is so on the pass as the items
before it have left it.  `Scene.Performs` says which items an operation performs, on which passes and
with which variables: items of a global action that it starts, and items of the statuses that its
pass enters (`Scene.PerformsFrom`).  In each list the items are performed up to the first that is
interactive or moves the record (`Scene.PerformsIn`).

`Scene.Carries` packs what has to be shown of a property of passes for an operation to keep it, where
of items only those count that it performs.  `Scene.Carries.operate` is the induction. -/

namespace Docket

open Expression (Variables)

namespace Scene

variable {s : Scene} {vars : Variables} {item i : Item} {items : List Item} {p q r : Pass}
  {op : Operation} {record : Record} {world : World}

/-! ### Items one after the other -/

/-- After the item the next one has its turn: the condition of the item does not hold, or it was
performed and left the record where it was. -/
inductive Passes (s : Scene) (vars : Variables) (item : Item) (p : Pass) : Pass → Prop
  | closed : s.holds vars item = false → Passes s vars item p (s.noteCondition vars item p)
  | performed {q : Pass} : s.holds vars item = true → item.isInteractive = false →
      s.perform vars item p = (q, none) → Passes s vars item p q
  | stayed {q r : Pass} {m : Move} {origin : Origin} : s.holds vars item = true →
      item.isInteractive = false → s.perform vars item p = (q, some m) →
      s.move item { m with origin } q = (r, .stayed) → Passes s vars item p r

/-- Of a list of items that have their turns from a pass on, one is performed on another pass. -/
inductive PerformsIn (s : Scene) (vars : Variables) : List Item → Pass → Item → Pass → Prop
  | here {item : Item} {rest : List Item} {p : Pass} : s.holds vars item = true →
      item.isInteractive = false → PerformsIn s vars (item :: rest) p item p
  | later {item i : Item} {rest : List Item} {p q r : Pass} : s.Passes vars item p q →
      PerformsIn s vars rest q i r → PerformsIn s vars (item :: rest) p i r

theorem PerformsIn.mem (h : s.PerformsIn vars items p i q) : i ∈ items := by
  induction h with
  | here => exact List.mem_cons_self
  | later _ _ ih => exact List.mem_cons_of_mem _ ih

/-- From a pass on, an item of a status that is entered is performed, with the variables of the record
as it was when the status was entered. -/
inductive PerformsFrom (s : Scene) (p : Pass) : Variables → Item → Pass → Prop
  | entered {q r : Pass} {status : Status} {i : Item} : s.Enters p r →
      s.graph.status? r.record.status = some status →
      s.PerformsIn (s.bindings r) status.items r i q → PerformsFrom s p (s.bindings r) i q

theorem PerformsFrom.onward {status : Status} (hs : s.graph.status? p.record.status = some status)
    (hv : s.visit (s.bindings p) status.items p = (q, .moved))
    (h : s.PerformsFrom q vars i r) : s.PerformsFrom p vars i r := by
  cases h with
  | entered henters hs' hin => exact .entered (.onward hs hv henters) hs' hin

/-! ### Operations -/

/-- The operation starts a global action, on this pass. -/
inductive Runs (s : Scene) (record : Record) (world : World) (action : GlobalAction) :
    Operation → Pass → Prop
  | answered {name : String} {status : Status} {p : Pass} :
      s.graph.status? record.status = some status →
      status.items.find? (s.firedBy (s.bindings (Pass.start record world)) name) = none →
      s.graph.workflow.globalActions.find? (fun a => a.answersTo name) = some action →
      (Pass.start record world).Logged p → Runs s record world action (.trigger name) p
  | commanded {id : String} {status : Status} : s.graph.status? record.status = some status →
      s.graph.workflow.globalAction? id = some action →
      action.triggers.any (s.startedBy (Pass.start record world)) = true →
      Runs s record world action (.runGlobal id) (Pass.start record world)

theorem Runs.mem {action : GlobalAction} (h : s.Runs record world action op p) :
    action ∈ s.graph.workflow.globalActions := by
  cases h with
  | answered _ _ hf _ => exact List.mem_of_find?_eq_some hf
  | commanded _ hf _ => exact List.mem_of_find?_eq_some hf

/-- The operation performs an item on a pass, with these variables. -/
inductive Performs (s : Scene) (record : Record) (world : World) (op : Operation) :
    Variables → Item → Pass → Prop
  | globally {action : GlobalAction} {p q : Pass} {i : Item} : record.workflowId = s.graph.id →
      s.Runs record world action op p →
      s.PerformsIn (s.bindings p) (action.items.filter fun i => !i.isInteractive) p i q →
      Performs s record world op (s.bindings p) i q
  | passing {vars : Variables} {p q : Pass} {i : Item} : record.workflowId = s.graph.id →
      s.Opened record world op p → p.ending ≠ some .hopLimit → s.PerformsFrom p vars i q →
      Performs s record world op vars i q

theorem Performs.mem_items (h : s.Performs record world op vars i q) :
    i ∈ s.graph.workflow.items := by
  cases h with
  | globally _ hruns hin =>
      exact Workflow.mem_items_of_globalAction hruns.mem (List.mem_of_mem_filter hin.mem)
  | passing _ _ _ hfrom =>
      cases hfrom with
      | entered _ hs hin => exact Graph.item_mem_of_status? hs hin.mem

/-! ### What every performance keeps -/

/-- What a pass carries along: the items that are performed keep it, and so do lines in the failure
log, arrivals, forms that are filled in, notes about edits and the end of the pass. -/
structure Carries (s : Scene) (performed : Variables → Item → Pass → Prop) (P : Pass → Prop) :
    Prop where
  logged : ∀ {p q : Pass}, p.Logged q → P p → P q
  perform : ∀ {p : Pass} {vars : Variables} {item : Item}, performed vars item p → P p →
    P (s.perform vars item p).1
  ending : ∀ {p : Pass} (e : Option PassState), P p → P { p with ending := e }
  arrive : ∀ {p : Pass} (item : Item) (origin : Origin) (next : Place),
    P p → P (s.arrive item p origin next)
  filledIn : ∀ {p : Pass} (form : Table Json), P p → P (p.filledIn form)
  noteEdit : ∀ {p : Pass} (item : Item), P p → P (s.noteEdit item p)

namespace Carries

variable {performed : Variables → Item → Pass → Prop} {P : Pass → Prop}

theorem cutOff (h : s.Carries performed P) (item : Item) (hp : P p) : P (s.cutOff item p) :=
  h.ending _ (h.logged ⟨_, _, rfl⟩ hp)

theorem after_perform (h : s.Carries performed P) (hperformed : performed vars item p) (hp : P p)
    {m : Option Move} (hq : s.perform vars item p = (q, m)) : P q := by
  have hafter := h.perform hperformed hp
  rw [hq] at hafter
  exact hafter

theorem move (h : s.Carries performed P) {item : Item} {m : Move} {v : MoveResult}
    (hm : s.move item m p = (q, v)) (hp : P p) : P q := by
  rcases s.move_cases item p m with ⟨_, hcases⟩ | ⟨_, _, _, hcases⟩ | ⟨_, next, _, hcases⟩
  · cases hm.symm.trans hcases; exact h.cutOff item hp
  · cases hm.symm.trans hcases; exact hp
  · cases hm.symm.trans hcases; exact h.arrive item m.origin next hp

theorem applyEdit (h : s.Carries performed P) (item : Item) (edit : Edit) (form : Table Json)
    (hp : P p) : P (s.applyEdit item edit form p) := by
  have hf : P (p.filledIn form) := h.filledIn form hp
  have he := s.applyEdit_edited item edit form p
  generalize s.applyEdit item edit form p = q at he
  cases he with
  | noted => exact h.noteEdit item hf
  | limited => exact h.noteEdit item (h.cutOff item hf)
  | moved => exact h.arrive item _ _ hf

/-- **The induction over a visit.**  Whatever the first item does, the others are performed on the
pass that it leaves. -/
theorem visit (h : s.Carries performed P)
    (hin : ∀ {i q}, s.PerformsIn vars items p i q → performed vars i q) (hp : P p) :
    P (s.visit vars items p).1 := by
  induction items generalizing p with
  | nil => exact hp
  | cons item rest ih =>
      have onward : ∀ {q : Pass}, s.Passes vars item p q → P q → P (s.visit vars rest q).1 :=
        fun hpass hq => ih (fun hi => hin (.later hpass hi)) hq
      unfold Scene.visit
      simp only
      cases hh : s.holds vars item with
      | false => exact onward (.closed hh) (h.logged (s.noteCondition_logged vars item p) hp)
      | true =>
          rw [if_pos rfl, s.noteCondition_of_holds vars item p hh]
          cases hint : item.isInteractive with
          | true => exact h.ending _ hp
          | false =>
              rw [if_neg Bool.false_ne_true]
              rcases hperf : s.perform vars item p with ⟨q, _ | m⟩
              · exact onward (.performed hh hint hperf)
                  (h.after_perform (hin (.here hh hint)) hp hperf)
              · have hq := h.after_perform (hin (.here hh hint)) hp hperf
                simp only
                rcases hm : s.move item m q with ⟨r, _ | _ | _⟩
                · exact h.move hm hq
                · exact onward (.stayed hh hint hperf hm) (h.move hm hq)
                · exact h.move hm hq

theorem performGlobal (h : s.Carries performed P)
    (hin : ∀ {i q}, s.PerformsIn vars (items.filter fun i => !i.isInteractive) p i q →
      performed vars i q) (hp : P p) : P (s.performGlobal vars items p) := by
  induction items generalizing p with
  | nil => exact hp
  | cons item rest ih =>
      unfold Scene.performGlobal
      simp only
      cases hint : item.isInteractive with
      | true =>
          rw [List.filter_cons_of_neg (by simp [hint])] at hin
          exact ih hin hp
      | false =>
          rw [List.filter_cons_of_pos (by simp [hint])] at hin
          rw [if_neg Bool.false_ne_true]
          have onward : ∀ {q : Pass}, s.Passes vars item p q → P q →
              P (s.performGlobal vars rest q) :=
            fun hpass hq => ih (fun hi => hin (.later hpass hi)) hq
          cases hh : s.holds vars item with
          | false => exact onward (.closed hh) (h.logged (s.noteCondition_logged vars item p) hp)
          | true =>
              rw [if_pos rfl, s.noteCondition_of_holds vars item p hh]
              rcases hperf : s.perform vars item p with ⟨q, _ | m⟩
              · exact onward (.performed hh hint hperf)
                  (h.after_perform (hin (.here hh hint)) hp hperf)
              · have hq := h.after_perform (hin (.here hh hint)) hp hperf
                simp only
                rcases hm : s.move item { m with origin := .globalAction } q with ⟨r, _ | _ | _⟩
                · exact h.move hm hq
                · exact onward (.stayed hh hint hperf hm) (h.move hm hq)
                · exact h.move hm hq

/-- **The induction over a pass.** -/
theorem drive (h : s.Carries performed P) (left : ℕ)
    (hfrom : ∀ {vars i q}, s.PerformsFrom p vars i q → performed vars i q) (hp : P p) :
    P (s.drive left p).1 := by
  have visited : ∀ {p q : Pass} {status : Status} {v : Visit},
      (∀ {vars i q}, s.PerformsFrom p vars i q → performed vars i q) →
      s.graph.status? p.record.status = some status →
      s.visit (s.bindings p) status.items p = (q, v) → P p → P q := by
    intro p q status v hfrom hs hv hp
    have hq := h.visit (fun hin => hfrom (.entered (.here p) hs hin)) hp
    rw [hv] at hq
    exact hq
  fun_induction Scene.drive s left p with
  | case1 => exact hp
  | case2 left p status hs q hv => exact visited hfrom hs hv hp
  | case3 left p status hs q hv => exact h.ending _ (visited hfrom hs hv hp)
  | case4 p status hs q hv => exact visited hfrom hs hv hp
  | case5 p status hs q left hv ih =>
      exact ih (fun hnext => hfrom (hnext.onward hs hv)) (visited hfrom hs hv hp)

/-- What is carried along has come through when a pass is opened. -/
theorem opened (h : s.Carries (s.Performs record world op) P) (hw : record.workflowId = s.graph.id)
    (ho : s.Opened record world op p) (hp : P (Pass.start record world)) : P p := by
  cases ho with
  | alone => exact hp
  | chosen => exact h.move rfl hp
  | edited => exact h.applyEdit _ _ _ hp
  | triggered _ _ _ hl => exact h.move rfl (h.logged hl hp)
  | answered hs hf hg hl =>
      exact h.performGlobal (.globally hw (.answered hs hf hg hl)) (h.logged hl hp)
  | commanded hs hg hany => exact h.performGlobal (.globally hw (.commanded hs hg hany)) hp

theorem goOn (h : s.Carries (s.Performs record world op) P) (hw : record.workflowId = s.graph.id)
    (ho : s.Opened record world op p) (hp : P (Pass.start record world)) : P (s.goOn p).1 := by
  have hopened := h.opened hw ho hp
  unfold Scene.goOn
  split
  · exact hopened
  · next hend => exact h.drive _ (.passing hw ho hend) hopened

/-- **What a pass carries along is there when an operation is over**, whatever it answers. -/
theorem operate_pass (h : s.Carries (s.Performs record world op) P)
    (hp : P (Pass.start record world)) :
    ∃ q, P q ∧ (s.operate op record world).record = q.record ∧
      (s.operate op record world).world = q.world ∧
      ∀ outcome, (s.operate op record world).answer = .ok outcome → q.outcome = outcome := by
  have hoperated := s.operate_operated op record world
  generalize s.operate op record world = reply at hoperated
  cases hoperated with
  | @refused q _ hl => exact ⟨q, h.logged hl hp, rfl, rfl, fun _ hok => nomatch hok⟩
  | opened hw ho => exact ⟨_, h.goOn hw ho hp, rfl, rfl, fun _ hok => (finish_eq_ok.mp hok).2⟩

theorem operate (h : s.Carries (s.Performs record world op) P) (hp : P (Pass.start record world)) :
    ∃ q, P q ∧ (s.operate op record world).world = q.world ∧
      ∀ outcome, (s.operate op record world).answer = .ok outcome → q.outcome = outcome := by
  obtain ⟨q, hq, _, hrest⟩ := h.operate_pass hp
  exact ⟨q, hq, hrest⟩

end Carries
end Scene
end Docket
