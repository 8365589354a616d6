import Docket.Engine.Operation
import Docket.Proofs.Engine.Course

/-! # Operations as one

`Operation` gathers what may be asked of a record, and `Scene.operate` does it.  Every operation has
the same shape, and `Scene.operate_operated` proves it once: either it is refused before anything
but the failure log has changed, or it opens a pass and goes on with it.

* `Refused` lists the reasons for a refusal: the record is of another workflow, its status is not
  declared, or the person who acts is told why.
* `Opened` lists the ways to open a pass: without anybody, by a choice, by an edit, by a jump that
  waited for a trigger, or by a global action.
* `Lasting` packs what has to be shown of a property for every operation to keep it, and
  `Lasting.goOn` is the induction.  `operate_lasts` concludes it of the record after an operation.

Properties of operations follow from these lists and from the induction over passes. -/

namespace Docket

open Expression (Variables)

/-- What may be asked of a record. -/
inductive Operation where
  | run
  | submit (item : String) (form : Table Json)
  | trigger (name : String)
  | runGlobal (action : String)
deriving DecidableEq, Repr

/-- The list of those who may fire an item; none for an item that nobody fires. -/
def Item.admitted? (item : Item) : Option (List String) :=
  match item.action with
  | .choice choice => some choice.admitted
  | .edit edit => some edit.admitted
  | _ => none

/-- `q` is `p` with more in its failure log. -/
def Pass.Logged (p q : Pass) : Prop :=
  ∃ log failures, q = { p with world := { p.world with log }, failures }

namespace Pass.Logged

variable {p q r : Pass}

theorem refl (p : Pass) : p.Logged p := ⟨p.world.log, p.failures, rfl⟩

theorem trans (h : p.Logged q) (h' : q.Logged r) : p.Logged r := by
  obtain ⟨_, _, rfl⟩ := h
  obtain ⟨_, _, rfl⟩ := h'
  exact ⟨_, _, rfl⟩

theorem record (h : p.Logged q) : q.record = p.record := by
  obtain ⟨_, _, rfl⟩ := h; rfl

theorem directory (h : p.Logged q) : q.world.directory = p.world.directory := by
  obtain ⟨_, _, rfl⟩ := h; rfl

theorem sent (h : p.Logged q) : q.world.sent = p.world.sent := by
  obtain ⟨_, _, rfl⟩ := h; rfl

theorem sameCourse (h : p.Logged q) : p.SameCourse q := by
  obtain ⟨_, _, rfl⟩ := h; exact ⟨rfl, rfl, rfl⟩

end Pass.Logged

/-- The pass after a form was filled in. -/
def Pass.filledIn (p : Pass) (form : Table Json) : Pass :=
  { p with record := { p.record with data := Scene.fillIn form p.record.data } }

namespace Scene

variable (s : Scene) (vars : Variables) (name : String)

/-- Does what is asked of a record. -/
def operate (op : Operation) (record : Record) (world : World) : Reply Outcome :=
  match op with
  | .run => s.run record world
  | .submit item form => s.submit record world item form
  | .trigger name => s.trigger record world name
  | .runGlobal action => s.runGlobal record world action

theorem noteCondition_logged (item : Item) (p : Pass) : p.Logged (s.noteCondition vars item p) := by
  unfold noteCondition
  split
  · split
    · exact Pass.Logged.refl p
    · exact ⟨_, _, rfl⟩
  · exact Pass.Logged.refl p

/-! ### The jump that a trigger fires -/

/-- Whether an item is a jump that a trigger fires now. -/
def firedBy (item : Item) : Bool := (triggeredJump? item name).isSome && s.holds vars item

theorem triggeredJump?_eq_some {name : String} {item : Item} {jump : Jump}
    (h : triggeredJump? item name = some jump) :
    item.action = .jump jump ∧ jump.mode = .trigger name := by
  unfold triggeredJump? at h
  split at h
  · next j ha =>
    split at h
    · next hm => cases h; exact ⟨ha, hm⟩
    · cases h
  · cases h

theorem firstTriggered_logged (items : List Item) (p : Pass) :
    p.Logged (s.firstTriggered vars name items p).1 := by
  induction items generalizing p with
  | nil => exact Pass.Logged.refl p
  | cons item rest ih =>
      unfold firstTriggered
      split
      · exact ih p
      · have hn := s.noteCondition_logged vars item p
        simp only
        split
        · exact hn
        · exact hn.trans (ih _)

/-- **A trigger fires the first jump that it can fire.** -/
theorem firstTriggered_snd (items : List Item) (p : Pass) :
    (s.firstTriggered vars name items p).2 = (items.find? (s.firedBy vars name)).bind fun item =>
      (triggeredJump? item name).map fun jump => (item, jump) := by
  induction items generalizing p with
  | nil => rfl
  | cons item rest ih =>
      unfold firstTriggered
      rw [List.find?_cons]
      unfold firedBy at ih ⊢
      cases hj : triggeredJump? item name with
      | none => simpa [hj] using ih p
      | some jump =>
          by_cases hh : s.holds vars item = true
          · simp [hh, hj]
          · simpa [hh] using ih _

variable {s vars name}

theorem firstTriggered_eq_some {items : List Item} {p q : Pass} {item : Item} {jump : Jump}
    (h : s.firstTriggered vars name items p = (q, some (item, jump))) :
    items.find? (s.firedBy vars name) = some item ∧ item.action = .jump jump ∧ p.Logged q := by
  have hs := s.firstTriggered_snd vars name items p
  have hl := s.firstTriggered_logged vars name items p
  rw [h] at hs hl
  obtain ⟨i, hi, hj⟩ := Option.bind_eq_some_iff.mp hs.symm
  obtain ⟨j, hj, he⟩ := Option.map_eq_some_iff.mp hj
  cases he
  exact ⟨hi, (triggeredJump?_eq_some hj).1, hl⟩

theorem firstTriggered_eq_none {items : List Item} {p q : Pass}
    (h : s.firstTriggered vars name items p = (q, none)) :
    items.find? (s.firedBy vars name) = none ∧ p.Logged q := by
  have hs := s.firstTriggered_snd vars name items p
  have hl := s.firstTriggered_logged vars name items p
  rw [h] at hs hl
  refine ⟨?_, hl⟩
  cases hf : items.find? (s.firedBy vars name) with
  | none => rfl
  | some item =>
      have hfired := List.find?_some hf
      unfold firedBy at hfired
      obtain ⟨jump, hj⟩ := Option.isSome_iff_exists.mp (Bool.and_eq_true_iff.mp hfired).1
      rw [hf, Option.bind_some, hj] at hs
      cases hs

/-! ### What an edit can do -/

theorem applyEdit_eq (s : Scene) (item : Item) (edit : Edit) (form : Table Json) (p : Pass) :
    s.applyEdit item edit form p =
      match edit.target with
      | none => s.noteEdit item (p.filledIn form)
      | some target =>
        match s.move item ⟨target, false, s.moment.origin⟩ (p.filledIn form) with
        | (q, .moved) => q
        | (q, _) => s.noteEdit item q := rfl

/-- What can come of an edit. -/
inductive Edited (s : Scene) (item : Item) (edit : Edit) (form : Table Json) (p : Pass) : Pass → Prop
  | noted : Edited s item edit form p (s.noteEdit item (p.filledIn form))
  | limited {target : String} : edit.target = some target → s.engine.settings.maxHops ≤ p.hops →
      Edited s item edit form p (s.noteEdit item (s.cutOff item (p.filledIn form)))
  | moved {target : String} {next : Place} : edit.target = some target →
      p.hops < s.engine.settings.maxHops → Leads target false p.record.place next →
      Edited s item edit form p (s.arrive item (p.filledIn form) s.moment.origin next)

/-- **An edit fills in its form and makes one move or leaves a note.** -/
theorem applyEdit_edited (s : Scene) (item : Item) (edit : Edit) (form : Table Json) (p : Pass) :
    s.Edited item edit form p (s.applyEdit item edit form p) := by
  rw [applyEdit_eq]
  cases ht : edit.target with
  | none => exact .noted
  | some target =>
      simp only
      rcases s.move_cases item (p.filledIn form) ⟨target, false, s.moment.origin⟩ with
        ⟨hle, hm⟩ | ⟨_, _, _, hm⟩ | ⟨hlt, next, hl, hm⟩
      · rw [hm]
        exact .limited ht hle
      · rw [hm]
        exact .noted
      · rw [hm]
        exact .moved ht hlt hl

/-! ### What an operation can do -/

/-- The reasons to refuse an operation. -/
inductive Refused (s : Scene) (record : Record) (world : World) : Operation → EngineError → Prop
  | foreign {op : Operation} : record.workflowId ≠ s.graph.id →
      Refused s record world op (.workflowMismatch s.graph.id record.workflowId)
  | astray {op : Operation} : op ≠ .run → s.graph.status? record.status = none →
      Refused s record world op (.unknownStatus record.status)
  | missing {id : String} {form : Table Json} {status : Status} :
      s.graph.status? record.status = some status → status.item? id = none →
      Refused s record world (.submit id form) (.unknownItem id)
  | automatic {id : String} {form : Table Json} {status : Status} {item : Item} :
      s.graph.status? record.status = some status → status.item? id = some item →
      item.isInteractive = false → Refused s record world (.submit id form) (.notInteractive id)
  | closed {id : String} {form : Table Json} {status : Status} {item : Item} :
      s.graph.status? record.status = some status → status.item? id = some item →
      item.isInteractive = true →
      s.holds (s.bindings (Pass.start record world)) item = false →
      Refused s record world (.submit id form) (.unavailable id)
  | barred {id : String} {form : Table Json} {status : Status} {item : Item}
      {admitted : List String} :
      s.graph.status? record.status = some status → status.item? id = some item →
      item.admitted? = some admitted →
      s.holds (s.bindings (Pass.start record world)) item = true →
      s.admits (Pass.start record world) admitted = false →
      Refused s record world (.submit id form) (.notAuthorised item.id)
  | locked {id field : String} {form : Table Json} {status : Status} {item : Item} {edit : Edit} :
      s.graph.status? record.status = some status → status.item? id = some item →
      item.action = .edit edit →
      s.holds (s.bindings (Pass.start record world)) item = true →
      s.admits (Pass.start record world) edit.admitted = true →
      form.names.find? (fun field => !mayEdit edit field) = some field →
      Refused s record world (.submit id form) (.fieldNotEditable field)
  | unheard {name : String} {status : Status} : s.graph.status? record.status = some status →
      status.items.find? (s.firedBy (s.bindings (Pass.start record world)) name) = none →
      s.graph.workflow.globalActions.find? (fun a => a.answersTo name) = none →
      Refused s record world (.trigger name) (.noMatchingTrigger name)
  | unlisted {id : String} : s.graph.workflow.globalAction? id = none →
      Refused s record world (.runGlobal id) (.unknownGlobalAction id)
  | denied {id : String} {action : GlobalAction} : s.graph.workflow.globalAction? id = some action →
      action.triggers.any (s.startedBy (Pass.start record world)) = false →
      Refused s record world (.runGlobal id) (.notAuthorised id)

/-- The ways to open a pass. -/
inductive Opened (s : Scene) (record : Record) (world : World) : Operation → Pass → Prop
  | alone : Opened s record world .run (Pass.start record world)
  | chosen {id : String} {form : Table Json} {status : Status} {item : Item} {choice : Choice} :
      s.graph.status? record.status = some status → status.item? id = some item →
      item.action = .choice choice →
      s.holds (s.bindings (Pass.start record world)) item = true →
      s.admits (Pass.start record world) choice.admitted = true →
      Opened s record world (.submit id form)
        (s.move item ⟨choice.target, choice.mark, s.moment.origin⟩ (Pass.start record world)).1
  | edited {id : String} {form : Table Json} {status : Status} {item : Item} {edit : Edit} :
      s.graph.status? record.status = some status → status.item? id = some item →
      item.action = .edit edit →
      s.holds (s.bindings (Pass.start record world)) item = true →
      s.admits (Pass.start record world) edit.admitted = true →
      (∀ field ∈ form.names, mayEdit edit field = true) →
      Opened s record world (.submit id form) (s.applyEdit item edit form (Pass.start record world))
  | triggered {name : String} {status : Status} {item : Item} {jump : Jump} {p : Pass} :
      s.graph.status? record.status = some status →
      status.items.find? (s.firedBy (s.bindings (Pass.start record world)) name) = some item →
      item.action = .jump jump → (Pass.start record world).Logged p →
      Opened s record world (.trigger name)
        (s.move item ⟨jump.target, jump.mark, s.moment.origin⟩ p).1
  | answered {name : String} {status : Status} {action : GlobalAction} {p : Pass} :
      s.graph.status? record.status = some status →
      status.items.find? (s.firedBy (s.bindings (Pass.start record world)) name) = none →
      s.graph.workflow.globalActions.find? (fun a => a.answersTo name) = some action →
      (Pass.start record world).Logged p →
      Opened s record world (.trigger name) (s.performGlobal (s.bindings p) action.items p)
  | commanded {id : String} {status : Status} {action : GlobalAction} :
      s.graph.status? record.status = some status →
      s.graph.workflow.globalAction? id = some action →
      action.triggers.any (s.startedBy (Pass.start record world)) = true →
      Opened s record world (.runGlobal id)
        (s.performGlobal (s.bindings (Pass.start record world)) action.items
          (Pass.start record world))

/-- What can come of an operation. -/
inductive Operated (s : Scene) (record : Record) (world : World) (op : Operation) :
    Reply Outcome → Prop
  | refused {p : Pass} {e : EngineError} : (Pass.start record world).Logged p →
      s.Refused record world op e → Operated s record world op (refuse p e)
  | opened {p : Pass} : record.workflowId = s.graph.id → s.Opened record world op p →
      Operated s record world op (finish (s.goOn p))

section Steps

variable {record : Record} {status : Status} {id : String} {item : Item}

theorem begin?_eq_ok (h : record.workflowId = s.graph.id) : s.begin? record = .ok () := if_pos h

theorem begin?_eq_error (h : record.workflowId ≠ s.graph.id) :
    s.begin? record = .error (.workflowMismatch s.graph.id record.workflowId) := if_neg h

theorem statusOf_eq_ok (h : s.graph.status? record.status = some status) :
    s.statusOf record = .ok status := by
  unfold statusOf; rw [h]

theorem statusOf_eq_error (h : s.graph.status? record.status = none) :
    s.statusOf record = .error (.unknownStatus record.status) := by
  unfold statusOf; rw [h]

theorem namedItem_of_none (h : status.item? id = none) :
    namedItem status id = .error (.unknownItem id) := by
  unfold namedItem; rw [h]

theorem namedItem_of_some (h : status.item? id = some item) :
    namedItem status id = if item.isInteractive then .ok item else .error (.notInteractive id) := by
  unfold namedItem; rw [h]

theorem runItems_of_some {action : GlobalAction} {p : Pass}
    (h : s.graph.status? p.record.status = some status) :
    s.runItems action p = finish (s.goOn (s.performGlobal (s.bindings p) action.items p)) := by
  unfold runItems; rw [statusOf_eq_ok h]

theorem runItems_of_none {action : GlobalAction} {p : Pass}
    (h : s.graph.status? p.record.status = none) :
    s.runItems action p = refuse p (.unknownStatus p.record.status) := by
  unfold runItems; rw [statusOf_eq_error h]

end Steps

theorem run_operated (s : Scene) (record : Record) (world : World) :
    s.Operated record world .run (s.run record world) := by
  unfold run
  by_cases hw : record.workflowId = s.graph.id
  · rw [begin?_eq_ok hw]
    exact .opened hw .alone
  · rw [begin?_eq_error hw]
    exact .refused (Pass.Logged.refl _) (.foreign hw)

/-- Firing an item that a person may fire opens the pass, or says why not. -/
theorem fire_cases {record : Record} {world : World} {id : String} {status : Status} {item : Item}
    (form : Table Json) (hs : s.graph.status? record.status = some status)
    (hi : status.item? id = some item) (hint : item.isInteractive = true)
    (hh : s.holds (s.bindings (Pass.start record world)) item = true) :
    (∃ e, s.fire item form (Pass.start record world) = .error e ∧
      s.Refused record world (.submit id form) e) ∨
    (∃ p, s.fire item form (Pass.start record world) = .ok p ∧
      s.Opened record world (.submit id form) p) := by
  unfold fire
  cases ha : item.action with
  | choice choice =>
      simp only
      by_cases had : s.admits (Pass.start record world) choice.admitted = true
      · rw [if_pos had]
        exact Or.inr ⟨_, rfl, .chosen hs hi ha hh had⟩
      · rw [if_neg had]
        have hl : item.admitted? = some choice.admitted := by simp [Item.admitted?, ha]
        exact Or.inl ⟨_, rfl, .barred hs hi hl hh (Bool.eq_false_iff.mpr had)⟩
  | edit edit =>
      simp only
      by_cases had : s.admits (Pass.start record world) edit.admitted = true
      · rw [if_pos had]
        cases hf : form.names.find? fun field => !mayEdit edit field with
        | some field => exact Or.inl ⟨_, rfl, .locked hs hi ha hh had hf⟩
        | none =>
            refine Or.inr ⟨_, rfl, .edited hs hi ha hh had fun field hfield => ?_⟩
            simpa using List.find?_eq_none.mp hf field hfield
      · rw [if_neg had]
        have hl : item.admitted? = some edit.admitted := by simp [Item.admitted?, ha]
        exact Or.inl ⟨_, rfl, .barred hs hi hl hh (Bool.eq_false_iff.mpr had)⟩
  | jump _ => simp [Item.isInteractive, ha] at hint
  | dispatch _ => simp [Item.isInteractive, ha] at hint
  | message _ => simp [Item.isInteractive, ha] at hint
  | notify _ => simp [Item.isInteractive, ha] at hint
  | changeRole _ _ => simp [Item.isInteractive, ha] at hint

theorem submit_operated (s : Scene) (record : Record) (world : World) (id : String)
    (form : Table Json) :
    s.Operated record world (.submit id form) (s.submit record world id form) := by
  unfold submit
  simp only
  by_cases hw : record.workflowId = s.graph.id
  · rw [begin?_eq_ok hw, ok_bind]
    cases hs : s.graph.status? record.status with
    | none =>
        rw [statusOf_eq_error hs, error_bind]
        exact .refused (Pass.Logged.refl _) (.astray (by simp) hs)
    | some status =>
        rw [statusOf_eq_ok hs, ok_bind]
        cases hi : status.item? id with
        | none =>
            rw [namedItem_of_none hi]
            exact .refused (Pass.Logged.refl _) (.missing hs hi)
        | some item =>
            rw [namedItem_of_some hi]
            by_cases hint : item.isInteractive = true
            · rw [if_pos hint]
              simp only
              by_cases hh : s.holds (s.bindings (Pass.start record world)) item = true
              · rw [if_pos hh, s.noteCondition_of_holds _ item _ hh]
                rcases fire_cases form hs hi hint hh with ⟨e, he, hr⟩ | ⟨p, hp, ho⟩
                · rw [he]
                  exact .refused (Pass.Logged.refl _) hr
                · rw [hp]
                  exact .opened hw ho
              · rw [if_neg hh]
                exact .refused (s.noteCondition_logged _ item _)
                  (.closed hs hi hint (Bool.eq_false_iff.mpr hh))
            · rw [if_neg hint]
              exact .refused (Pass.Logged.refl _) (.automatic hs hi (Bool.eq_false_iff.mpr hint))
  · rw [begin?_eq_error hw, error_bind]
    exact .refused (Pass.Logged.refl _) (.foreign hw)

theorem trigger_operated (s : Scene) (record : Record) (world : World) (name : String) :
    s.Operated record world (.trigger name) (s.trigger record world name) := by
  unfold trigger
  simp only
  by_cases hw : record.workflowId = s.graph.id
  · rw [begin?_eq_ok hw, ok_bind]
    cases hs : s.graph.status? record.status with
    | none =>
        rw [statusOf_eq_error hs]
        exact .refused (Pass.Logged.refl _) (.astray (by simp) hs)
    | some status =>
        rw [statusOf_eq_ok hs]
        simp only
        rcases hf : s.firstTriggered (s.bindings (Pass.start record world)) name status.items
          (Pass.start record world) with ⟨p, _ | ⟨item, jump⟩⟩
        · obtain ⟨hnone, hl⟩ := firstTriggered_eq_none hf
          simp only
          cases hg : s.graph.workflow.globalActions.find? fun a => a.answersTo name with
          | none => exact .refused hl (.unheard hs hnone hg)
          | some action =>
              have hp : s.graph.status? p.record.status = some status := by rw [hl.record]; exact hs
              simp only [runItems_of_some hp]
              exact .opened hw (.answered hs hnone hg hl)
        · obtain ⟨hsome, ha, hl⟩ := firstTriggered_eq_some hf
          exact .opened hw (.triggered hs hsome ha hl)
  · rw [begin?_eq_error hw, error_bind]
    exact .refused (Pass.Logged.refl _) (.foreign hw)

theorem runGlobal_operated (s : Scene) (record : Record) (world : World) (id : String) :
    s.Operated record world (.runGlobal id) (s.runGlobal record world id) := by
  unfold runGlobal
  simp only
  by_cases hw : record.workflowId = s.graph.id
  · rw [begin?_eq_ok hw]
    cases ha : s.graph.workflow.globalAction? id with
    | none => exact .refused (Pass.Logged.refl _) (.unlisted ha)
    | some action =>
        simp only
        by_cases hany : action.triggers.any (s.startedBy (Pass.start record world)) = true
        · rw [if_pos hany]
          cases hs : s.graph.status? record.status with
          | none =>
              rw [runItems_of_none (p := Pass.start record world) hs]
              exact .refused (Pass.Logged.refl _) (.astray (by simp) hs)
          | some status =>
              rw [runItems_of_some (p := Pass.start record world) hs]
              exact .opened hw (.commanded hs ha hany)
        · rw [if_neg hany]
          exact .refused (Pass.Logged.refl _) (.denied ha (Bool.eq_false_iff.mpr hany))
  · rw [begin?_eq_error hw]
    exact .refused (Pass.Logged.refl _) (.foreign hw)

/-- **An operation is refused or opens a pass.** -/
theorem operate_operated (s : Scene) (op : Operation) (record : Record) (world : World) :
    s.Operated record world op (s.operate op record world) := by
  cases op with
  | run => exact s.run_operated record world
  | submit id form => exact s.submit_operated record world id form
  | trigger name => exact s.trigger_operated record world name
  | runGlobal id => exact s.runGlobal_operated record world id

/-! ### What every operation keeps -/

/-- What lasts whatever is done: effects beside the course keep it, and so do arrivals by any item of
the workflow, forms that are filled in, notes about edits and the end of the pass. -/
structure Lasting (s : Scene) (P : Pass → Prop) : Prop where
  sameCourse : ∀ {p q : Pass}, p.SameCourse q → P p → P q
  ending : ∀ {p : Pass} (e : Option PassState), P p → P { p with ending := e }
  arrive : ∀ {p : Pass} {item : Item} {target : String} {mark : Bool} {next : Place}
    (origin : Origin), item ∈ s.graph.workflow.items → item.route? = some (target, mark) →
    Leads target mark p.record.place next → P p → P (s.arrive item p origin next)
  filledIn : ∀ {p : Pass} (form : Table Json), P p → P (p.filledIn form)
  noteEdit : ∀ {p : Pass} (item : Item), P p → P (s.noteEdit item p)

namespace Lasting

variable {P : Pass → Prop} {p : Pass} {item : Item}

theorem kept (h : s.Lasting P) : s.Kept P where
  sameCourse := h.sameCourse
  ending := h.ending
  arrive hs hi hperf _ hl hp :=
    h.arrive _ (Graph.item_mem_of_status? hs hi) (perform_eq_some hperf).2.2 hl hp

theorem move (h : s.Lasting P) {m : Move} (hi : item ∈ s.graph.workflow.items)
    (hr : item.route? = some (m.target, m.mark)) (hp : P p) : P (s.move item m p).1 := by
  rcases s.move_cases item p m with ⟨_, hm⟩ | ⟨_, _, _, hm⟩ | ⟨_, next, hl, hm⟩
  · rw [hm]; exact h.kept.cutOff hp
  · rw [hm]; exact hp
  · rw [hm]; exact h.arrive m.origin hi hr hl hp

theorem applyEdit (h : s.Lasting P) {edit : Edit} {form : Table Json}
    (hi : item ∈ s.graph.workflow.items) (ha : item.action = .edit edit) (hp : P p) :
    P (s.applyEdit item edit form p) := by
  have hf : P (p.filledIn form) := h.filledIn form hp
  have he := s.applyEdit_edited item edit form p
  generalize s.applyEdit item edit form p = q at he
  cases he with
  | noted => exact h.noteEdit item hf
  | limited => exact h.noteEdit item (h.kept.cutOff hf)
  | moved ht _ hl => exact h.arrive _ hi (Item.route?_edit ha ht) hl hf

theorem performGlobal (h : s.Lasting P) {action : GlobalAction} {vars : Variables}
    (ha : action ∈ s.graph.workflow.globalActions) (hp : P p) :
    P (s.performGlobal vars action.items p) := by
  have hr := s.performGlobal_performed vars action.items p
  generalize s.performGlobal vars action.items p = q at hr
  cases hr with
  | through hq => exact h.sameCourse hq hp
  | moved hq hi _ hperf _ hl =>
      have hm := Workflow.mem_items_of_globalAction ha hi
      exact h.arrive _ hm (perform_eq_some hperf).2.2 hl (h.sameCourse hq hp)
  | limited hq => exact h.kept.cutOff (h.sameCourse hq hp)

variable {op : Operation} {record : Record} {world : World}

/-- What lasts still holds when an operation has opened a pass. -/
theorem opened (h : s.Lasting P) (ho : s.Opened record world op p)
    (hp : P (Pass.start record world)) : P p := by
  cases ho with
  | alone => exact hp
  | chosen hs hi ha =>
      have hm := Graph.item_mem_of_status? hs (List.mem_of_find?_eq_some hi)
      exact h.move hm (Item.route?_choice ha) hp
  | edited hs hi ha =>
      have hm := Graph.item_mem_of_status? hs (List.mem_of_find?_eq_some hi)
      exact h.applyEdit hm ha hp
  | triggered hs hf ha hl =>
      have hm := Graph.item_mem_of_status? hs (List.mem_of_find?_eq_some hf)
      exact h.move hm (Item.route?_jump ha) (h.sameCourse hl.sameCourse hp)
  | answered _ _ hf hl =>
      exact h.performGlobal (List.mem_of_find?_eq_some hf) (h.sameCourse hl.sameCourse hp)
  | commanded _ hf _ => exact h.performGlobal (List.mem_of_find?_eq_some hf) hp

/-- **What lasts still holds when the pass of an operation is over.** -/
theorem goOn (h : s.Lasting P) (ho : s.Opened record world op p)
    (hp : P (Pass.start record world)) : P (s.goOn p).1 :=
  h.kept.goOn (h.opened ho hp)

end Lasting

/-- **What lasts of a record still holds after an operation,** also where it is refused. -/
theorem operate_lasts {record : Record} (P : Record → Prop) (h : s.Lasting fun p => P p.record)
    (op : Operation) (world : World) (hp : P record) : P (s.operate op record world).record := by
  have hoperated := s.operate_operated op record world
  generalize s.operate op record world = reply at hoperated
  cases hoperated with
  | refused hl =>
      show P (Pass.record _)
      rw [hl.record]
      exact hp
  | opened _ ho => exact h.goOn ho hp

end Scene

/-! ### A small workflow

A request that its submitter sends out for advice, with a mark to come back to, and that may be
withdrawn from outside.  The concrete inputs of the modules on operations are passes over it. -/

namespace Sample

/-- An item without a condition. -/
def item (id : String) (action : Action) : Item := ⟨id, none, none, action⟩

def ask : Item := item "ask" (.choice ⟨"Ask", [submitterEntry], false, none, "advice", true⟩)

def fill : Item := item "fill" (.edit ⟨none, [], none, .fields ["note"]⟩)

def workflow : Workflow where
  id := "request"
  name := "Request"
  initial := "draft"
  statuses := [
    ⟨"draft", "Draft", [ask, fill], false⟩,
    ⟨"advice", "Advice", [item "stale" (.jump ⟨"closed", false, .timeout 3600⟩),
      item "return" (.jump ⟨previous, false, .immediate⟩)], false⟩,
    ⟨"closed", "Closed", [], true⟩]
  functions := ∅
  globalActions := [⟨"withdraw", "Withdraw", [.webservice "withdrawn"],
    [item "drop" (.jump ⟨"closed", false, .immediate⟩)]⟩]

theorem workflow_check : workflow.check .default = .ok () := by decide +kernel

def graph : Graph := ⟨.default, workflow, workflow_check⟩

def now : Instant := ⟨19723, 0, 0⟩

def record : Record := .create workflow .nil now ∅ (some "ada")

def world : World := ⟨.empty, .empty, []⟩

/-- The scene in which a user acts. -/
def scene (user : String) : Scene :=
  ⟨.ofSettings .default .accepting, graph, ⟨some user, .interactive, now, ∅⟩⟩

end Sample
end Docket
