import Docket.Engine.View
import Docket.Proofs.Engine.WellFormed

/-! # What is offered is what can be submitted

A person sees the items of `Scene.surface` and fires one of them with `Scene.submit`.  The first
lists the items of the status, the second checks one item, and they ask in different orders: whether
a person may fire the item, whether the person is admitted, whether the condition holds, and whether
the form keeps to the fields.

* `Scene.surface_answer` says what is listed: what is shown of the items whose condition holds, in
  their order.
* `Scene.Opened.offered` and `Scene.Offered.not_refused` are the two directions: a submission opens
  a pass only with an item that is offered, and none of the reasons for a refusal applies to one.
* `Scene.submit_ok_iff_offered` is the statement on well-formed records. -/

namespace Docket

open Expression (Variables)

/-- The form keeps to what is shown: for an edit, its fields are among those listed, if there is a
list, and none is hidden. -/
def SurfaceItem.Takes (shown : SurfaceItem) (form : Table Json) : Prop :=
  shown.kind = .edit → ∀ field ∈ form.names,
    (∀ fields, shown.fields = some fields → field ∈ fields) ∧ Record.isHidden field = false

theorem EditScope.allows_iff {scope : EditScope} {field : String} :
    scope.allows field = true ↔ ∀ fields, scope.fields? = some fields → field ∈ fields := by
  cases scope with
  | full => simp [allows, fields?]
  | fields names => simp [allows, fields?]

theorem Graph.item?_of_mem {g : Graph} {id : String} {status : Status} {item : Item}
    (hs : g.status? id = some status) (hi : item ∈ status.items) :
    status.item? item.id = some item := by
  have hsome : (status.item? item.id).isSome := by
    unfold Status.item?
    rw [List.find?_isSome]
    exact ⟨item, hi, by simp⟩
  obtain ⟨found, hfound⟩ := Option.isSome_iff_exists.mp hsome
  have hid : found.id = item.id := by simpa using List.find?_some hfound
  have hmem := Graph.item_mem_of_status? hs (List.mem_of_find?_eq_some hfound)
  rw [hfound, Graph.eq_of_item_id hmem (Graph.item_mem_of_status? hs hi) hid]

namespace Scene

variable {s : Scene} {record : Record} {world : World} {id : String} {form : Table Json}
  {item : Item} {p q : Pass}

/-! ### What is shown of an item -/

theorem surfaceItem?_choice {choice : Choice} (ha : item.action = .choice choice) :
    s.surfaceItem? p item =
      if s.admits p choice.admitted then
        some { id := item.id, kind := .choice, label := some choice.label,
               needsConfirmation := choice.needsConfirmation,
               confirmation := choice.confirmation, fields := none }
      else none := by
  unfold surfaceItem?; rw [ha]

theorem surfaceItem?_edit {edit : Edit} (ha : item.action = .edit edit) :
    s.surfaceItem? p item =
      if s.admits p edit.admitted then
        some { id := item.id, kind := .edit, label := edit.label, needsConfirmation := false,
               confirmation := none, fields := edit.scope.fields? }
      else none := by
  unfold surfaceItem?; rw [ha]

theorem surfaceItem?_of_logged (h : p.Logged q) (item : Item) :
    s.surfaceItem? q item = s.surfaceItem? p item := by
  obtain ⟨_, _, rfl⟩ := h; rfl

theorem surfaceItem?_eq_some {shown : SurfaceItem} (h : s.surfaceItem? p item = some shown) :
    shown.id = item.id ∧ item.isInteractive = true ∧
      ∀ admitted, item.admitted? = some admitted → s.admits p admitted = true := by
  unfold Item.admitted? Item.isInteractive
  cases ha : item.action with
  | choice choice =>
      rw [surfaceItem?_choice ha] at h
      split at h
      · next had => cases h; exact ⟨rfl, rfl, fun _ hl => by cases hl; exact had⟩
      · cases h
  | edit edit =>
      rw [surfaceItem?_edit ha] at h
      split at h
      · next had => cases h; exact ⟨rfl, rfl, fun _ hl => by cases hl; exact had⟩
      · cases h
  | jump _ | dispatch _ | message _ | notify _ | changeRole _ _ => simp [surfaceItem?, ha] at h

/-- **What is listed of the items of a status.** -/
theorem surfaceItems_snd (s : Scene) (vars : Variables) (items : List Item) (p : Pass) :
    (s.surfaceItems vars items p).2 = (items.filter (s.holds vars)).filterMap (s.surfaceItem? p) := by
  induction items generalizing p with
  | nil => rfl
  | cons item rest ih =>
      unfold surfaceItems
      cases hshown : s.surfaceItem? p item with
      | none =>
          simp only [ih]
          cases hh : s.holds vars item with
          | true => rw [List.filter_cons_of_pos hh, List.filterMap_cons_none hshown]
          | false => rw [List.filter_cons_of_neg (by simp [hh])]
      | some shown =>
          have hnote : s.surfaceItem? (s.noteCondition vars item p) = s.surfaceItem? p :=
            funext (surfaceItem?_of_logged (s.noteCondition_logged vars item p))
          simp only [ih, hnote]
          cases hh : s.holds vars item with
          | true => rw [List.filter_cons_of_pos hh, List.filterMap_cons_some hshown, if_pos rfl]
          | false => rw [List.filter_cons_of_neg (by simp [hh]), if_neg Bool.false_ne_true]

theorem surface_answer {status : Status} (hw : record.workflowId = s.graph.id)
    (hs : s.graph.status? record.status = some status) :
    (s.surface record world).answer =
      .ok ((status.items.filter (s.holds (s.bindings (Pass.start record world)))).filterMap
        (s.surfaceItem? (Pass.start record world))) := by
  unfold surface look
  simp only [begin?_eq_ok hw, ok_bind, statusOf_eq_ok hs]
  rw [← surfaceItems_snd]

/-! ### Offers and submissions -/

/-- The record is in a status with an item of this identifier whose condition holds, that is shown
to who is acting, and the form keeps to what is shown. -/
structure Offered (s : Scene) (record : Record) (world : World) (id : String) (form : Table Json)
    (status : Status) (item : Item) (shown : SurfaceItem) : Prop where
  status_eq : s.graph.status? record.status = some status
  item_eq : status.item? id = some item
  open_now : s.holds (s.bindings (Pass.start record world)) item = true
  shown_eq : s.surfaceItem? (Pass.start record world) item = some shown
  takes : shown.Takes form

/-- A submission opens a pass only with an item that is offered. -/
theorem Opened.offered (h : s.Opened record world (.submit id form) p) :
    ∃ status item shown, s.Offered record world id form status item shown := by
  cases h with
  | chosen hs hi ha hh had =>
      refine ⟨_, _, _, hs, hi, hh, (surfaceItem?_choice ha).trans (if_pos had), fun hkind => ?_⟩
      cases hkind
  | edited hs hi ha hh had hfields =>
      refine ⟨_, _, _, hs, hi, hh, (surfaceItem?_edit ha).trans (if_pos had), fun _ field hf => ?_⟩
      have hmay := hfields field hf
      unfold mayEdit at hmay
      rw [Bool.and_eq_true, Bool.not_eq_true'] at hmay
      exact ⟨EditScope.allows_iff.mp hmay.2, hmay.1⟩

theorem Offered.not_refused {status : Status} {item : Item} {shown : SurfaceItem} {e : EngineError}
    (h : s.Offered record world id form status item shown) (hw : record.workflowId = s.graph.id) :
    ¬ s.Refused record world (.submit id form) e := by
  obtain ⟨hs, hi, hh, hshown, htakes⟩ := h
  obtain ⟨_, hint, hadmits⟩ := surfaceItem?_eq_some hshown
  intro href
  cases href with
  | foreign hne => exact hne hw
  | astray _ hnone => rw [hs] at hnone; cases hnone
  | missing hs' hi' =>
      cases hs.symm.trans hs'
      rw [hi] at hi'
      cases hi'
  | automatic hs' hi' hint' =>
      cases hs.symm.trans hs'
      cases hi.symm.trans hi'
      rw [hint] at hint'
      cases hint'
  | closed hs' hi' _ hh' =>
      cases hs.symm.trans hs'
      cases hi.symm.trans hi'
      rw [hh] at hh'
      cases hh'
  | barred hs' hi' hl _ had =>
      cases hs.symm.trans hs'
      cases hi.symm.trans hi'
      rw [hadmits _ hl] at had
      cases had
  | @locked _ field _ _ _ edit hs' hi' ha _ had hfind =>
      cases hs.symm.trans hs'
      cases hi.symm.trans hi'
      rw [surfaceItem?_edit ha, if_pos had] at hshown
      cases hshown
      obtain ⟨hlisted, hvisible⟩ := htakes rfl field (List.mem_of_find?_eq_some hfind)
      have hmay : mayEdit edit field = true := by
        unfold mayEdit
        rw [hvisible, EditScope.allows_iff.mpr hlisted]
        rfl
      have hnot := List.find?_some hfind
      rw [hmay] at hnot
      cases hnot

theorem submit_ok_iff (hr : record.WellFormed s.graph) :
    (∃ outcome, (s.submit record world id form).answer = .ok outcome) ↔
      ∃ status item shown, s.Offered record world id form status item shown := by
  have ho := s.submit_operated record world id form
  have hserves : s.Serves (.submit id form) record world := serves_of_wellFormed hr
  have hknown : ∀ id', (s.submit record world id form).answer ≠ .error (.unknownStatus id') :=
    hserves.status_known
  generalize s.submit record world id form = reply at ho hknown
  cases ho with
  | refused _ href =>
      constructor
      · rintro ⟨_, hok⟩
        cases hok
      · rintro ⟨_, _, _, h⟩
        exact absurd href (h.not_refused hr.workflow)
  | @opened p _ hopen =>
      refine iff_of_true ?_ hopen.offered
      rcases hgo : s.goOn p with ⟨q, e | ⟨⟩⟩
      · obtain ⟨_, rfl⟩ := goOn_eq_error hgo
        rw [hgo] at hknown
        exact absurd rfl (hknown _)
      · exact ⟨q.outcome, rfl⟩

/-- **What is offered is what can be submitted.**  On a well-formed record the offers can be listed,
and a submission succeeds exactly when its item is among them and, for an edit, every field of the
form is one of the listed fields, if there is a list, and does not begin with an underscore. -/
theorem submit_ok_iff_offered (hr : record.WellFormed s.graph) (world : World) :
    ∃ offers, (s.surface record world).answer = .ok offers ∧ ∀ id form,
      ((∃ outcome, (s.submit record world id form).answer = .ok outcome) ↔
        ∃ shown ∈ offers, shown.id = id ∧ shown.Takes form) := by
  obtain ⟨status, hs⟩ := Graph.exists_status?_iff.mpr hr.status
  refine ⟨_, surface_answer hr.workflow hs, fun id form => ?_⟩
  rw [submit_ok_iff hr]
  constructor
  · rintro ⟨status', item, shown, hs', hi, hh, hshown, htakes⟩
    cases hs.symm.trans hs'
    have hid : item.id = id := by simpa using List.find?_some hi
    have hmem := List.mem_filter.mpr ⟨List.mem_of_find?_eq_some hi, hh⟩
    exact ⟨shown, List.mem_filterMap.mpr ⟨item, hmem, hshown⟩,
      (surfaceItem?_eq_some hshown).1.trans hid, htakes⟩
  · rintro ⟨shown, hmem, rfl, htakes⟩
    obtain ⟨item, hitem, hshown⟩ := List.mem_filterMap.mp hmem
    obtain ⟨hi, hh⟩ := List.mem_filter.mp hitem
    rw [(surfaceItem?_eq_some hshown).1]
    exact ⟨status, item, shown, hs, Graph.item?_of_mem hs hi, hh, hshown, htakes⟩

/-- Somebody else than the submitter is offered the note of the request, and may write it. -/
theorem submit_ok_iff_offered_sample :
    Sample.record.WellFormed Sample.graph ∧
    ∃ offers, ((Sample.scene "bob").surface Sample.record Sample.world).answer = .ok offers ∧
      ((Sample.scene "bob").submit Sample.record Sample.world "fill"
        (.ofList [("note", .null)])).answer = .ok ⟨"draft", .suspended "ask", 0, 0, []⟩ ∧
      ∃ shown ∈ offers, shown.id = "fill" ∧ shown.Takes (.ofList [("note", .null)]) := by
  have hr : Sample.record.WellFormed Sample.graph := Sample.graph.create_wellFormed _ _ _ _
  have hok : ((Sample.scene "bob").submit Sample.record Sample.world "fill"
      (.ofList [("note", .null)])).answer = .ok ⟨"draft", .suspended "ask", 0, 0, []⟩ := by
    decide +kernel
  obtain ⟨offers, hoffers, h⟩ :=
    submit_ok_iff_offered (s := Sample.scene "bob") hr Sample.world
  exact ⟨hr, offers, hoffers, hok, (h _ _).mp ⟨_, hok⟩⟩

end Scene
end Docket
