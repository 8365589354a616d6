import Docket.Proofs.Engine.Hidden
import Docket.Proofs.Engine.Operation
import Docket.Proofs.Expression.Caches

/-! # Data that no expression sees

Records, and moments, that are alike to a catalogue differ in nothing but fields that the catalogue
does not admit.  `Engine.answers_alike` is the property of two runs: over alike records at alike
moments every operation and every view gives the same answer and leaves the same world, and the
records that come out are alike again.

The runs stay together because the variables of both are alike whenever a status is entered
(`Scene.bindings_alike`) and the data does not change within a pass (`Scene.kept_data`).  Only an
edit writes into the data, and it writes the same fields in both runs. -/

namespace Docket

open Expression (Catalogue Evaluator Rules Variables)

variable {c : Catalogue}

/-- Records that differ at most in data that the catalogue does not admit. -/
structure Record.Alike (c : Catalogue) (r r' : Record) : Prop where
  rest : r' = r.withData r'.data
  data : c.Alike r.data.value? r'.data.value?

/-- Moments that differ at most in variables of the host that the catalogue does not admit. -/
structure Moment.Alike (c : Catalogue) (m m' : Moment) : Prop where
  rest : m' = { m with bindings := m'.bindings }
  bindings : c.Alike m.bindings.value? m'.bindings.value?

/-- The same answer and the same world, with alike records. -/
structure Reply.Alike {α : Type} (c : Catalogue) (r r' : Reply α) : Prop where
  answer : r'.answer = r.answer
  world : r'.world = r.world
  record : r.record.Alike c r'.record

/-! ### Tables -/

theorem alike_set {t t' : Table Json} (h : c.Alike t.value? t'.value?) (name : String) (v : Json) :
    c.Alike (t.set name v).value? (t'.set name v).value? := by
  intro n hn
  rw [Table.value?_set, Table.value?_set, h n hn]

theorem alike_set_hidden {name : String} (h : c.admits name = false) (t : Table Json) (v : Json) :
    c.Alike t.value? (t.set name v).value? := by
  intro n hn
  have hne : name ≠ n := by
    rintro rfl
    rw [h] at hn
    cases hn
  rw [Table.value?_set, if_neg hne]

namespace Scene

theorem fillIn_alike {t t' : Table Json} (form : Table Json) (h : c.Alike t.value? t'.value?) :
    c.Alike (fillIn form t).value? (fillIn form t').value? := by
  unfold fillIn
  induction form.items generalizing t t' with
  | nil => exact h
  | cons f rest ih => exact ih (alike_set h f.1 f.2)

/-! ### Passes -/

variable {s : Scene} {b d : Table Json} {p : Pass}

theorem kept_data (s : Scene) (d : Table Json) : s.Kept fun p => p.record.data = d where
  sameCourse h hp := h.data.trans hp
  ending _ hp := hp
  arrive _ _ _ _ _ hp := hp

theorem move_data (item : Item) (m : Move) (p : Pass) :
    (s.move item m p).1.record.data = p.record.data := by
  rcases s.move_cases item p m with ⟨_, hm⟩ | ⟨_, _, _, hm⟩ | ⟨_, _, _, hm⟩
  · rw [hm]; rfl
  · rw [hm]
  · rw [hm]; rfl

theorem performGlobal_data (vars : Variables) (items : List Item) (p : Pass) :
    (s.performGlobal vars items p).record.data = p.record.data := by
  have h := s.performGlobal_performed vars items p
  generalize s.performGlobal vars items p = q at h
  cases h with
  | through hq => exact hq.data
  | moved hq _ _ _ _ _ => exact hq.data
  | limited hq _ _ _ _ => exact (kept_data s _).cutOff hq.data

theorem applyEdit_data (item : Item) (edit : Edit) (form : Table Json) (p : Pass) :
    (s.applyEdit item edit form p).record.data = fillIn form p.record.data := by
  have h := s.applyEdit_edited item edit form p
  generalize s.applyEdit item edit form p = q at h
  cases h with
  | noted => rfl
  | limited _ _ => rfl
  | moved _ _ _ => rfl

/-- The edit of a pass over other data fills in the other data. -/
theorem applyEdit_withData (item : Item) (edit : Edit) (form : Table Json) (p : Pass) :
    (s.withHost b).applyEdit item edit form (p.withData d) =
      (s.applyEdit item edit form p).withData (fillIn form d) := by
  have hfill : (p.withData d).filledIn form = (p.filledIn form).withData (fillIn form d) := rfl
  rw [applyEdit_eq, applyEdit_eq, hfill]
  cases edit.target with
  | none => rfl
  | some target =>
      simp only [withHost_origin, move_withData]
      rcases s.move item ⟨target, false, s.moment.origin⟩ (p.filledIn form) with ⟨q, _ | _ | _⟩
      · rfl
      · rfl
      · rfl

section Alike

variable (hb : s.engine.rules.catalogue.Alike s.moment.bindings.value? b.value?)
  (hd : s.engine.rules.catalogue.Alike p.record.data.value? d.value?)

include hb hd

/-- **The expressions of both runs see the same.** -/
theorem bindings_alike : s.engine.rules.catalogue.Alike (s.bindings p)
    ((s.withHost b).bindings (p.withData d)) := by
  intro n hn
  have hvisible : (p.record.withData d).visible? n = p.record.visible? n := by
    unfold Record.visible?
    rw [show (p.record.withData d).data.value? n = p.record.data.value? n from hd n hn]
  unfold bindings Record.bindings
  rw [show (s.withHost b).moment.bindings.value? n = s.moment.bindings.value? n from hb n hn,
    Pass.withData_record, hvisible]
  rfl

omit hd in
/-- **Both runs of a pass go the same way.** -/
theorem drive_withData (left : ℕ)
    (hd : s.engine.rules.catalogue.Alike p.record.data.value? d.value?) :
    (s.withHost b).drive left (p.withData d) =
      ((s.drive left p).1.withData d, (s.drive left p).2) := by
  -- The second run follows the first: in each case the first decides what the visit of both does.
  fun_induction Scene.drive s left p with
  | case1 left p hs =>
      unfold drive
      simp only [withHost_graph, Pass.withData_record, Record.withData_status, hs]
  | case2 left p status hs q hv =>
      unfold drive
      simp only [withHost_graph, Pass.withData_record, Record.withData_status, hs,
        visit_withData (bindings_alike hb hd), hv]
  | case3 left p status hs q hv =>
      unfold drive
      simp only [withHost_graph, Pass.withData_record, Record.withData_status, hs,
        visit_withData (bindings_alike hb hd), hv]
      rfl
  | case4 p status hs q hv =>
      unfold drive
      simp only [withHost_graph, Pass.withData_record, Record.withData_status, hs,
        visit_withData (bindings_alike hb hd), hv]
  | case5 p status hs q left hv ih =>
      have hdata : q.record.data = p.record.data := (s.kept_data p.record.data).visit hs hv rfl
      conv_lhs => unfold drive
      simp only [withHost_graph, Pass.withData_record, Record.withData_status, hs,
        visit_withData (bindings_alike hb hd), hv]
      exact ih (hdata ▸ hd)

theorem goOn_withData :
    (s.withHost b).goOn (p.withData d) = ((s.goOn p).1.withData d, (s.goOn p).2) := by
  unfold goOn
  simp only [withHost_engine, Pass.withData_hops, Pass.withData_ending]
  split
  · rfl
  · exact drive_withData hb _ hd

theorem finish_goOn_alike : (finish (s.goOn p)).Alike s.engine.rules.catalogue
    (finish ((s.withHost b).goOn (p.withData d))) := by
  have hdata := (s.kept_data p.record.data).goOn rfl
  rw [goOn_withData hb hd]
  refine ⟨rfl, rfl, rfl, ?_⟩
  show s.engine.rules.catalogue.Alike (s.goOn p).1.record.data.value? d.value?
  rw [hdata]
  exact hd

/-! ### Operations -/

omit hb in
theorem refuse_alike {α : Type} (e : EngineError) :
    (refuse p e : Reply α).Alike s.engine.rules.catalogue (refuse (p.withData d) e) :=
  ⟨rfl, rfl, rfl, hd⟩

theorem runItems_alike (action : GlobalAction) : (s.runItems action p).Alike
    s.engine.rules.catalogue ((s.withHost b).runItems action (p.withData d)) := by
  unfold runItems
  have hstatus : (s.withHost b).statusOf (p.withData d).record = s.statusOf p.record := rfl
  rw [hstatus]
  cases s.statusOf p.record with
  | error e => exact refuse_alike hd e
  | ok status =>
      simp only [performGlobal_withData (bindings_alike hb hd)]
      refine finish_goOn_alike hb ?_
      rw [performGlobal_data]
      exact hd

omit hb in
/-- A person fires the same item in both runs, or is refused for the same reason. -/
theorem fire_alike (item : Item) (form : Table Json) :
    (∃ e, s.fire item form p = .error e ∧
      (s.withHost b).fire item form (p.withData d) = .error e) ∨
    ∃ q d', s.fire item form p = .ok q ∧
      (s.withHost b).fire item form (p.withData d) = .ok (q.withData d') ∧
      s.engine.rules.catalogue.Alike q.record.data.value? d'.value? := by
  unfold fire
  simp only [admits_withData]
  cases item.action with
  | choice choice =>
      simp only
      by_cases had : s.admits p choice.admitted = true
      · rw [if_pos had, if_pos had, move_withData]
        refine Or.inr ⟨_, d, rfl, rfl, ?_⟩
        rw [move_data]
        exact hd
      · rw [if_neg had, if_neg had]
        exact Or.inl ⟨_, rfl, rfl⟩
  | edit edit =>
      simp only
      by_cases had : s.admits p edit.admitted = true
      · rw [if_pos had, if_pos had, applyEdit_withData]
        cases form.names.find? fun field => !mayEdit edit field with
        | some field => exact Or.inl ⟨_, rfl, rfl⟩
        | none =>
            refine Or.inr ⟨_, fillIn form d, rfl, rfl, ?_⟩
            rw [applyEdit_data]
            exact fillIn_alike form hd
      · rw [if_neg had, if_neg had]
        exact Or.inl ⟨_, rfl, rfl⟩
  | jump _ => exact Or.inl ⟨_, rfl, rfl⟩
  | dispatch _ => exact Or.inl ⟨_, rfl, rfl⟩
  | message _ => exact Or.inl ⟨_, rfl, rfl⟩
  | notify _ => exact Or.inl ⟨_, rfl, rfl⟩
  | changeRole _ _ => exact Or.inl ⟨_, rfl, rfl⟩

end Alike

section Operations

variable {record : Record} {world : World}
  (hb : s.engine.rules.catalogue.Alike s.moment.bindings.value? b.value?)
  (hd : s.engine.rules.catalogue.Alike record.data.value? d.value?)

theorem begin?_withData :
    (s.withHost b).begin? (record.withData d) = s.begin? record := rfl

theorem statusOf_withData :
    (s.withHost b).statusOf (record.withData d) = s.statusOf record := rfl

theorem start_withData :
    Pass.start (record.withData d) world = (Pass.start record world).withData d := rfl

theorem startedBy_withData (p : Pass) :
    (s.withHost b).startedBy (p.withData d) = s.startedBy p := by
  funext t
  cases t with
  | manual _ => rfl
  | webservice _ => rfl

include hb hd

theorem run_alike : (s.run record world).Alike s.engine.rules.catalogue
    ((s.withHost b).run (record.withData d) world) := by
  unfold run
  simp only [begin?_withData, start_withData]
  cases s.begin? record with
  | error e => exact refuse_alike hd e
  | ok _ => exact finish_goOn_alike hb hd

theorem submit_alike (id : String) (form : Table Json) :
    (s.submit record world id form).Alike s.engine.rules.catalogue
      ((s.withHost b).submit (record.withData d) world id form) := by
  have hv := bindings_alike (p := Pass.start record world) hb hd
  unfold submit
  simp only [begin?_withData, statusOf_withData, start_withData]
  cases (do s.begin? record; namedItem (← s.statusOf record) id) with
  | error e => exact refuse_alike hd e
  | ok item =>
      have hq : (s.noteCondition (s.bindings (Pass.start record world)) item
          (Pass.start record world)).record.data = record.data :=
        (s.noteCondition_sameRecord _ item _).sameCourse.data
      simp only [holds_withHost hv, noteCondition_withData hv]
      rw [← hq] at hd
      split
      · rcases fire_alike hd item form with ⟨e, he, he'⟩ | ⟨q, d', he, he', hd'⟩
        · rw [he, he']
          exact refuse_alike hd e
        · rw [he, he']
          exact finish_goOn_alike hb hd'
      · exact refuse_alike hd _

theorem trigger_alike (name : String) : (s.trigger record world name).Alike
    s.engine.rules.catalogue ((s.withHost b).trigger (record.withData d) world name) := by
  have hv := bindings_alike (p := Pass.start record world) hb hd
  unfold trigger
  simp only [begin?_withData, statusOf_withData, start_withData]
  cases (do s.begin? record; s.statusOf record) with
  | error e => exact refuse_alike hd e
  | ok status =>
      have hl := s.firstTriggered_logged (s.bindings (Pass.start record world)) name status.items
        (Pass.start record world)
      simp only [firstTriggered_withData hv]
      generalize s.firstTriggered (s.bindings (Pass.start record world)) name status.items
        (Pass.start record world) = f at hl ⊢
      have hq : f.1.record.data = record.data := hl.sameCourse.data
      rw [← hq] at hd
      rcases f with ⟨q, _ | ⟨item, jump⟩⟩
      · simp only [withHost_graph]
        cases s.graph.workflow.globalActions.find? fun a => a.answersTo name with
        | none => exact refuse_alike hd _
        | some action => exact runItems_alike hb hd action
      · simp only [withHost_origin, move_withData]
        refine finish_goOn_alike hb ?_
        rw [move_data]
        exact hd

theorem runGlobal_alike (id : String) : (s.runGlobal record world id).Alike
    s.engine.rules.catalogue ((s.withHost b).runGlobal (record.withData d) world id) := by
  unfold runGlobal
  simp only [begin?_withData, start_withData, startedBy_withData, withHost_graph]
  cases s.begin? record with
  | error e => exact refuse_alike hd e
  | ok _ =>
      simp only
      cases s.graph.workflow.globalAction? id with
      | none => exact refuse_alike hd _
      | some action =>
          simp only
          split
          · exact runItems_alike hb hd action
          · exact refuse_alike hd _

theorem operate_alike (op : Operation) : (s.operate op record world).Alike
    s.engine.rules.catalogue ((s.withHost b).operate op (record.withData d) world) := by
  cases op with
  | run => exact run_alike hb hd
  | submit id form => exact submit_alike hb hd id form
  | trigger name => exact trigger_alike hb hd name
  | runGlobal id => exact runGlobal_alike hb hd id

end Operations

/-! ### Views -/

theorem surfaceItems_logged (vars : Variables) (items : List Item) (p : Pass) :
    p.Logged (s.surfaceItems vars items p).1 := by
  induction items generalizing p with
  | nil => exact Pass.Logged.refl p
  | cons item rest ih =>
      unfold surfaceItems
      split
      · exact ih p
      · exact (s.noteCondition_logged vars item p).trans (ih _)

theorem showMessage_logged (vars : Variables) (item : Item) (m : Message) (p : Pass) :
    p.Logged (s.showMessage vars item m p).1 := by
  unfold showMessage
  split
  · exact Pass.Logged.refl p
  · exact ⟨_, _, rfl⟩

theorem shownMessages_logged (vars : Variables) (items : List Item) (p : Pass) :
    p.Logged (s.shownMessages vars items p).1 := by
  induction items generalizing p with
  | nil => exact Pass.Logged.refl p
  | cons item rest ih =>
      have hn := s.noteCondition_logged vars item p
      unfold shownMessages
      split
      · next m _ =>
        split
        · simp only
          split
          · exact (hn.trans (showMessage_logged vars item m _)).trans (ih _)
          · exact hn.trans (ih _)
        · exact ih p
      · exact ih p

theorem look_alike {α : Type} {record : Record} {world : World}
    {view view' : Variables → List Item → Pass → Pass × α}
    (hb : s.engine.rules.catalogue.Alike s.moment.bindings.value? b.value?)
    (hd : s.engine.rules.catalogue.Alike record.data.value? d.value?)
    (hview : ∀ {vars vars' : Variables}, s.engine.rules.catalogue.Alike vars vars' →
      ∀ (items : List Item) (p : Pass), view' vars' items (p.withData d) =
        ((view vars items p).1.withData d, (view vars items p).2))
    (hlog : ∀ (vars : Variables) (items : List Item) (p : Pass), p.Logged (view vars items p).1) :
    (s.look record world view).Alike s.engine.rules.catalogue
      ((s.withHost b).look (record.withData d) world view') := by
  unfold look
  simp only [begin?_withData, statusOf_withData, start_withData]
  cases (do s.begin? record; s.statusOf record) with
  | error e => exact refuse_alike hd e
  | ok status =>
      have hv := bindings_alike (p := Pass.start record world) hb hd
      have hl := hlog (s.bindings (Pass.start record world)) status.items (Pass.start record world)
      simp only [hview hv]
      refine ⟨rfl, rfl, rfl, ?_⟩
      show s.engine.rules.catalogue.Alike (view _ _ _).1.record.data.value? d.value?
      rw [hl.record]
      exact hd

end Scene

/-! ### Two runs -/

/-- **What the catalogue does not admit is not seen.**  Over alike records at alike moments every
operation and every view gives the same answer, leaves the same directory, the same failures and the
same calls of the notifier, and makes alike records of alike records.  The caches of an evaluator
let nothing through either: whatever two evaluators have read under the rules, they say the same
about every text under alike variables. -/
theorem Engine.answers_alike (engine : Engine) (graph : Graph) {m m' : Moment}
    {record record' : Record} (hm : m.Alike engine.rules.catalogue m')
    (hr : record.Alike engine.rules.catalogue record') (world : World) :
    (∀ op, ((Scene.mk engine graph m).operate op record world).Alike engine.rules.catalogue
      ((Scene.mk engine graph m').operate op record' world)) ∧
    ((Scene.mk engine graph m).surface record world).Alike engine.rules.catalogue
      ((Scene.mk engine graph m').surface record' world) ∧
    ((Scene.mk engine graph m).messages record world).Alike engine.rules.catalogue
      ((Scene.mk engine graph m').messages record' world) ∧
    ∀ (ev ev' : Evaluator) (vars vars' : Variables) (text : String), ev.Reads engine.rules →
      ev'.Reads engine.rules → engine.rules.catalogue.Alike vars vars' →
      ev.Concur ev' vars vars' text := by
  obtain ⟨hrest, hdata⟩ := hr
  obtain ⟨hmrest, hbindings⟩ := hm
  have hs : Scene.mk engine graph m' = (Scene.mk engine graph m).withHost m'.bindings := by
    rw [hmrest]; rfl
  rw [hs, hrest]
  refine ⟨fun op => ?_, ?_, ?_, fun ev ev' vars vars' text h h' hv => ?_⟩
  · exact Scene.operate_alike (s := ⟨engine, graph, m⟩) hbindings hdata op
  · exact Scene.look_alike (s := ⟨engine, graph, m⟩) hbindings hdata
      Scene.surfaceItems_withData Scene.surfaceItems_logged
  · exact Scene.look_alike (s := ⟨engine, graph, m⟩) hbindings hdata
      Scene.shownMessages_withData Scene.shownMessages_logged
  · exact h.concur h' hv text

/-- A person writes a note into two requests that keep different things under an underscore, and two
fresh evaluators of different capacities look up the note. -/
theorem Engine.answers_alike_sample :
    ((Sample.scene "ada").operate (.submit "fill" (.ofList [("note", .str "urgent")]))
      Sample.record Sample.world).Alike (Sample.scene "ada").engine.rules.catalogue
    (((Sample.scene "ada").withHost (Table.set "_token" (.str "host") ∅)).operate
      (.submit "fill" (.ofList [("note", .str "urgent")]))
      (Sample.record.withData (Table.set "_secret" (.bool true) ∅)) Sample.world) ∧
    (Evaluator.ofRules .default 1).Concur (Evaluator.ofRules .default 8)
      (∅ : Table Json).value? (Table.set "_secret" (.bool true) ∅).value? "note" := by
  have hhidden : ∀ (name : String) (v : Json), name.toList.head? = some '_' →
      Catalogue.free.Alike (∅ : Table Json).value? (Table.set name v ∅).value? :=
    fun name v h => alike_set_hidden (if_pos h) ∅ v
  have hm : (Sample.scene "ada").moment.Alike (Sample.scene "ada").engine.rules.catalogue
      ((Sample.scene "ada").withHost (Table.set "_token" (.str "host") ∅)).moment :=
    ⟨rfl, hhidden "_token" (.str "host") (by decide)⟩
  have hr : Sample.record.Alike (Sample.scene "ada").engine.rules.catalogue
      (Sample.record.withData (Table.set "_secret" (.bool true) ∅)) :=
    ⟨rfl, hhidden "_secret" (.bool true) (by decide)⟩
  have h := Engine.answers_alike (Sample.scene "ada").engine Sample.graph hm hr Sample.world
  refine ⟨h.1 _, ?_⟩
  exact h.2.2.2 _ _ _ _ "note" (Evaluator.ofRules_reads .default 1)
    (Evaluator.ofRules_reads .default 8) (hhidden "_secret" (.bool true) (by decide))

end Docket
