import Docket.Proofs.Engine.Authority
import Docket.Proofs.Engine.Lineage
import Docket.Proofs.Engine.Loop
import Docket.Proofs.Engine.Refusal
import Docket.Proofs.Engine.Secrecy
import Docket.Proofs.Record.RoundTrip

/-! # Who writes into the data

The data of a record changes by forms alone, and a form is taken by an edit that is open to who acts
and allows every field of it.  So each value that was not there from the beginning can be read back
to a submission.

* `Scene.Writes` says when an operation writes a value into a field, in terms of the record and the
  world before it.
* `Scene.operate_field` is the step: an operation writes into a field or leaves it as it is.
* `Graph.LastWrite` is the last write among calls one after the other, and `Graph.protected_lasts`
  the statement about all calls: what is protected stays, and a field has the value that was written
  last. -/

namespace Docket

open Scene (fillIn)

/-! ### Forms -/

theorem Table.mem_names_of_value? {α : Type} {t : Table α} {name : String} {a : α}
    (h : t.value? name = some a) : name ∈ t.names := by
  obtain ⟨e, he, -⟩ := Option.map_eq_some_iff.mp h
  exact List.mem_map.mpr ⟨e, Keyed.mem_of_get? he, Keyed.key_of_get? he⟩

theorem Scene.value?_fillIn (form data : Table Json) (field : String) :
    (fillIn form data).value? field = (form.value? field).or (data.value? field) := by
  have hget : (fillIn form data).get? field = (form.get? field).or (data.get? field) := by
    show (form.items.foldl (fun s a => s.insert a) data).get? field = _
    rw [Keyed.get?_foldl_insert, ← Keyed.get?_ofList, Keyed.ofList_items]
  unfold Table.value?
  rw [hget, Option.map_or]

/-! ### What is protected -/

/-- A later version of a record in which everything protected is as before: whose record it is, the
fields that are there, and the values of those that are hidden. -/
structure Record.KeepsProtected (later r : Record) : Prop where
  id_eq : later.id = r.id
  workflowId_eq : later.workflowId = r.workflowId
  submitter_eq : later.submitter = r.submitter
  present : ∀ field, (r.data.value? field).isSome = true → (later.data.value? field).isSome = true
  hidden : ∀ field, Record.isHidden field = true → later.data.value? field = r.data.value? field

namespace Record.KeepsProtected

variable {r q later : Record}

theorem refl (r : Record) : r.KeepsProtected r := ⟨rfl, rfl, rfl, fun _ h => h, fun _ _ => rfl⟩

theorem trans (h : later.KeepsProtected q) (h' : q.KeepsProtected r) : later.KeepsProtected r where
  id_eq := h.id_eq.trans h'.id_eq
  workflowId_eq := h.workflowId_eq.trans h'.workflowId_eq
  submitter_eq := h.submitter_eq.trans h'.submitter_eq
  present field hr := h.present field (h'.present field hr)
  hidden field hf := (h.hidden field hf).trans (h'.hidden field hf)

end Record.KeepsProtected

namespace Scene

variable {s : Scene} {op : Operation} {record : Record} {world : World} {p : Pass}
  {field : String}

/-! ### One operation -/

/-- In the status of the record, `id` names an edit whose condition holds, whose list admits who acts
and whose scope allows the field. -/
def Allows (s : Scene) (record : Record) (world : World) (id field : String) : Prop :=
  ∃ status item edit, s.graph.status? record.status = some status ∧
    status.item? id = some item ∧ item.action = .edit edit ∧
    s.holds (s.bindings (Pass.start record world)) item = true ∧
    s.admits (Pass.start record world) edit.admitted = true ∧ edit.scope.allows field = true

/-- The operation writes a value into a field of a record of the workflow: it submits a form with the
value to an edit that allows the field, and if it fails, nobody is told why. -/
structure Writes (s : Scene) (op : Operation) (record : Record) (world : World) (field : String)
    (v : Json) : Prop where
  own : record.workflowId = s.graph.id
  accepted : ∀ e, (s.operate op record world).answer = .error e → e.isUserVisible = false
  submitted : ∃ id form, op = .submit id form ∧ s.Allows record world id field ∧
    form.value? field = some v

theorem Refused.of_invisible {e : EngineError} (h : s.Refused record world op e)
    (he : e.isUserVisible = false) :
    record.workflowId ≠ s.graph.id ∨ s.graph.status? record.status = none := by
  cases h with
  | foreign hw => exact Or.inl hw
  | astray _ hs => exact Or.inr hs
  | missing | automatic | closed | barred | locked | unheard | unlisted | denied => cases he

theorem Refused.not_writes {v : Json} {q : Pass} {e : EngineError}
    (h : s.Refused record world op e) (hreply : s.operate op record world = refuse q e) :
    ¬ s.Writes op record world field v := by
  intro hw
  have he := hw.accepted e (by rw [hreply]; rfl)
  obtain ⟨_, _, _, ⟨_, _, _, hs, _⟩, _⟩ := hw.submitted
  rcases h.of_invisible he with hforeign | hnone
  · exact hforeign hw.own
  · rw [hs] at hnone
    cases hnone

/-- Opening a pass fills in the form of an edit that allows all of its fields, or does not touch the
data; then no edit was submitted. -/
theorem Opened.data_cases (h : s.Opened record world op p) :
    (p.record.data = record.data ∧
      ∀ id form field, op = .submit id form → ¬ s.Allows record world id field) ∨
    ∃ id form, op = .submit id form ∧ p.record.data = fillIn form record.data ∧
      ∀ field ∈ form.names, Record.isHidden field = false ∧ s.Allows record world id field := by
  cases h with
  | alone => exact Or.inl ⟨rfl, fun _ _ _ hop => nomatch hop⟩
  | @chosen id form status item choice hs hi ha _ _ =>
      refine Or.inl ⟨move_data item _ _, ?_⟩
      rintro id' form' field hop ⟨status', item', edit, hs', hi', ha', _⟩
      cases hop
      cases hs.symm.trans hs'
      cases hi.symm.trans hi'
      cases ha.symm.trans ha'
  | @edited id form status item edit hs hi ha hh had hall =>
      refine Or.inr ⟨id, form, rfl, applyEdit_data item edit form _, fun field hf => ?_⟩
      obtain ⟨hvisible, hallows⟩ := Bool.and_eq_true_iff.mp (hall field hf)
      exact ⟨by simpa using hvisible, status, item, edit, hs, hi, ha, hh, had, hallows⟩
  | triggered _ _ _ hl =>
      refine Or.inl ⟨?_, fun _ _ _ hop => nomatch hop⟩
      rw [move_data, hl.record]
      rfl
  | answered _ _ _ hl =>
      refine Or.inl ⟨?_, fun _ _ _ hop => nomatch hop⟩
      rw [performGlobal_data, hl.record]
      rfl
  | commanded => exact Or.inl ⟨performGlobal_data _ _ _, fun _ _ _ hop => nomatch hop⟩

/-- **An operation writes into a field, which is not a hidden one, or leaves it as it is.** -/
theorem operate_field (s : Scene) (op : Operation) (record : Record) (world : World)
    (field : String) :
    (∃ v, s.Writes op record world field v ∧ Record.isHidden field = false ∧
      (s.operate op record world).record.data.value? field = some v) ∨
    ((∀ v, ¬ s.Writes op record world field v) ∧
      (s.operate op record world).record.data.value? field = record.data.value? field) := by
  have h := s.operate_operated op record world
  generalize hreply : s.operate op record world = reply at h
  cases h with
  | @refused p e hl hr =>
      refine Or.inr ⟨fun v => hr.not_writes hreply, ?_⟩
      show p.record.data.value? field = _
      rw [hl.record]
      rfl
  | @opened p hown ho =>
      have hdata : (finish (s.goOn p)).record.data = p.record.data :=
        (s.kept_data p.record.data).goOn rfl
      rw [hdata]
      rcases ho.data_cases with ⟨hkept, hnone⟩ | ⟨id, form, rfl, hfilled, hall⟩
      · rw [hkept]
        refine Or.inr ⟨fun v hw => ?_, rfl⟩
        obtain ⟨id, form, hop, hallowed, _⟩ := hw.submitted
        exact hnone id form field hop hallowed
      · rw [hfilled, value?_fillIn]
        cases hv : form.value? field with
        | none =>
            refine Or.inr ⟨fun v hw => ?_, rfl⟩
            obtain ⟨_, _, hop, _, hform⟩ := hw.submitted
            cases hop
            rw [hv] at hform
            cases hform
        | some v =>
            obtain ⟨hvisible, hallowed⟩ := hall field (Table.mem_names_of_value? hv)
            refine Or.inl ⟨v, ⟨hown, fun e he => ?_, id, form, rfl, hallowed, hv⟩, hvisible, rfl⟩
            rw [hreply] at he
            exact finish_goOn_invisible he

theorem Writes.unique {v w : Json} (h : s.Writes op record world field v)
    (h' : s.Writes op record world field w) : v = w := by
  obtain ⟨_, _, rfl, _, hv⟩ := h.submitted
  obtain ⟨_, _, hop, _, hw⟩ := h'.submitted
  cases hop
  exact Option.some.inj (hv.symm.trans hw)

theorem Writes.value?_eq {v : Json} (h : s.Writes op record world field v) :
    (s.operate op record world).record.data.value? field = some v := by
  rcases s.operate_field op record world field with ⟨w, hw, _, hvalue⟩ | ⟨hno, _⟩
  · rw [h.unique hw, hvalue]
  · exact absurd h (hno v)

theorem value?_eq_of_not_writes (h : ∀ v, ¬ s.Writes op record world field v) :
    (s.operate op record world).record.data.value? field = record.data.value? field := by
  rcases s.operate_field op record world field with ⟨v, hv, _⟩ | ⟨_, hvalue⟩
  · exact absurd hv (h v)
  · exact hvalue

theorem lasting_submitter (s : Scene) (submitter : Option String) :
    s.Lasting fun p => p.record.submitter = submitter where
  sameCourse hb hp := by
    rw [hb.record]
    exact hp
  ending _ hp := hp
  arrive _ _ _ _ hp := hp
  filledIn _ hp := hp
  noteEdit _ hp := hp

/-- **An operation leaves what is protected as it is.** -/
theorem operate_keepsProtected (s : Scene) (op : Operation) (record : Record) (world : World) :
    (s.operate op record world).record.KeepsProtected record where
  id_eq := (s.operate_continues op record world).id_eq
  workflowId_eq := (s.operate_continues op record world).workflowId_eq
  submitter_eq := operate_lasts (fun r => r.submitter = record.submitter)
    (s.lasting_submitter record.submitter) op world rfl
  present field hr := by
    rcases s.operate_field op record world field with ⟨v, _, _, hvalue⟩ | ⟨_, hvalue⟩
    · rw [hvalue]
      rfl
    · rw [hvalue]
      exact hr
  hidden field hf := by
    rcases s.operate_field op record world field with ⟨_, _, hvisible, _⟩ | ⟨_, hvalue⟩
    · rw [hf] at hvisible
      cases hvisible
    · exact hvalue

end Scene

/-! ### Calls one after the other -/

/-- The call writes a value into a field of the record. -/
def Call.Writes (c : Call) (g : Graph) (record : Record) (field : String) (v : Json) : Prop :=
  (c.scene g).Writes c.op record c.world field v

namespace Graph

/-- The last call that writes into a field of the record writes this value. -/
inductive LastWrite (g : Graph) (record : Record) (field : String) : List Call → Json → Prop
  | here {calls : List Call} {c : Call} {v : Json} :
      c.Writes g (g.after record calls) field v → LastWrite g record field (calls ++ [c]) v
  | before {calls : List Call} {c : Call} {v : Json} : LastWrite g record field calls v →
      (∀ w, ¬ c.Writes g (g.after record calls) field w) →
      LastWrite g record field (calls ++ [c]) v

variable {g : Graph} {record : Record} {calls : List Call} {field : String}

theorem after_keepsProtected (g : Graph) (record : Record) (calls : List Call) :
    (g.after record calls).KeepsProtected record := by
  induction calls using List.reverseRecOn with
  | nil => exact .refl record
  | append_singleton calls c ih =>
      rw [after_concat]
      exact ((c.scene g).operate_keepsProtected c.op _ c.world).trans ih

theorem LastWrite.value?_eq {v : Json} (h : g.LastWrite record field calls v) :
    (g.after record calls).data.value? field = some v := by
  induction h with
  | here hw =>
      rw [after_concat]
      exact Scene.Writes.value?_eq hw
  | before _ hno ih =>
      rw [after_concat, ← ih]
      exact Scene.value?_eq_of_not_writes hno

theorem exists_lastWrite
    (h : (g.after record calls).data.value? field ≠ record.data.value? field) :
    ∃ v, g.LastWrite record field calls v := by
  induction calls using List.reverseRecOn with
  | nil => exact absurd rfl h
  | append_singleton calls c ih =>
      by_cases hw : ∃ v, c.Writes g (g.after record calls) field v
      · obtain ⟨v, hv⟩ := hw
        exact ⟨v, .here hv⟩
      · have hno := not_exists.mp hw
        rw [after_concat] at h
        have hsame := Scene.value?_eq_of_not_writes hno
        obtain ⟨v, hv⟩ := ih fun heq => h (hsame.trans heq)
        exact ⟨v, .before hv hno⟩

/-- **Protected data never changes.**  Whatever calls are made of a record, one after the other and
each in a world of its own, it stays the same record of the same workflow and the same submitter, no
field is lost and no hidden field comes or changes.  A field differs from the beginning only if some
call wrote into it, and then it has the value that was written last. -/
theorem protected_lasts (g : Graph) (record : Record) (calls : List Call) :
    (g.after record calls).KeepsProtected record ∧
    (∀ field, (g.after record calls).data.value? field ≠ record.data.value? field →
      ∃ v, g.LastWrite record field calls v) ∧
    ∀ field v, g.LastWrite record field calls v →
      (g.after record calls).data.value? field = some v :=
  ⟨g.after_keepsProtected record calls, fun _ h => exists_lastWrite h, fun _ _ h => h.value?_eq⟩

end Graph

namespace Sample

/-- The submitter fills in a form. -/
def filled (form : Table Json) : Call :=
  ⟨.ofSettings .default .accepting, (scene "ada").moment, .submit "fill" form, world⟩

/-- Two notes, and a form that reaches for a field that is not on the list. -/
def notes : List Call :=
  [filled (.ofList [("note", .str "first")]), filled (.ofList [("note", .str "second")]),
    filled (.ofList [("note", .str "third"), ("_sum", .null)])]

end Sample

/-- Of the notes the second is the last that is written: the form with the third was refused. -/
theorem Graph.protected_lasts_sample :
    Sample.graph.LastWrite Sample.record "note" Sample.notes (.str "second") ∧
    (Sample.graph.after Sample.record Sample.notes).data.value? "note" = some (.str "second") ∧
    (Sample.graph.after Sample.record Sample.notes).data.value? "_sum" = none := by
  obtain ⟨hkeeps, hdiffers, hlast⟩ := Sample.graph.protected_lasts Sample.record Sample.notes
  have hnote : (Sample.graph.after Sample.record Sample.notes).data.value? "note" =
      some (.str "second") := by decide +kernel
  obtain ⟨v, hv⟩ := hdiffers "note" (by rw [hnote]; exact Option.some_ne_none _)
  obtain rfl := Option.some.inj ((hlast "note" v hv).symm.trans hnote)
  exact ⟨hv, hnote, hkeeps.hidden "_sum" (by decide +kernel)⟩

end Docket
