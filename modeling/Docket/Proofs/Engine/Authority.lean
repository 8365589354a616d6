import Docket.Proofs.Engine.Disarmed
import Docket.Proofs.Engine.History
import Docket.Proofs.Engine.Offer
import Mathlib.Data.List.Induction

/-! # Nothing interactive happens without authority

A choice or an edit leaves a line in the history of the record, in the name of who acts.  Read back
from the line, there was a submission of that item, while the record was in a status that has it, by
somebody whom its list admits.

* `Scene.Authorised` says this of one operation: the operation, the record and the directory before
  it, the item and the line that was added.  `Scene.operate_authorised` is the step.
* `Call` is an operation with everything around it, and `Graph.after` does one call after the other.
* `Graph.authority_lasts` is the statement about all calls from creation on.  It also says that the
  items of a global action are performed only by calls that start it. -/

namespace Docket

namespace Scene

variable {s : Scene} {op : Operation} {record : Record} {world : World} {p : Pass} {item : Item}

/-! ### Lines of who acts -/

/-- The pass has only added lines of who acts to the history. -/
def Signed (s : Scene) (record : Record) (p : Pass) : Prop :=
  ∃ added, p.record.history = record.history ++ added ∧ ∀ e ∈ added, e.actor = s.moment.user

theorem Signed.concat {e : Entry} {q : Pass} (h : s.Signed record p)
    (hq : q.record.history = p.record.history ++ [e]) (he : e.actor = s.moment.user) :
    s.Signed record q := by
  obtain ⟨added, hadded, hsigned⟩ := h
  refine ⟨added ++ [e], ?_, fun e' he' => ?_⟩
  · rw [hq, hadded, List.append_assoc]
  · rcases List.mem_append.mp he' with he' | he'
    · exact hsigned e' he'
    · rw [List.mem_singleton.mp he']
      exact he

theorem lasting_signed (s : Scene) (record : Record) : s.Lasting (s.Signed record) where
  sameCourse hb h := by
    obtain ⟨added, hadded, hsigned⟩ := h
    exact ⟨added, hb.history.trans hadded, hsigned⟩
  ending _ h := h
  arrive _ _ _ _ h := h.concat rfl rfl
  filledIn _ h := h
  noteEdit _ h := h.concat rfl rfl

/-! ### One operation -/

/-- A line about an interactive item has authority: the operation is a submission of the item on a
record in a status that has it, the line is in the name of who acts, and if the list of the item is
not empty, somebody acts for whom one of its entries speaks. -/
structure Authorised (s : Scene) (op : Operation) (record : Record) (world : World) (item : Item)
    (e : Entry) : Prop where
  submitted : ∃ form, op = .submit item.id form
  present : ∃ status, s.graph.status? record.status = some status ∧ item ∈ status.items
  signed : e.actor = s.moment.user
  admitted : ∀ admitted, item.admitted? = some admitted → admitted ≠ [] →
    ∃ user, s.moment.user = some user ∧
      ∃ entry ∈ admitted, world.directory.Vouches record user entry

/-- A line in the name of who acts has authority if the submission of its item opened a pass. -/
theorem Opened.authorised {form : Table Json} {e : Entry}
    (h : s.Opened record world (.submit item.id form) p) (hitem : item ∈ s.graph.workflow.items)
    (he : e.actor = s.moment.user) : s.Authorised (.submit item.id form) record world item e := by
  -- what is submitted is offered, and what is offered admits who acts
  obtain ⟨status, found, shown, hoffer⟩ := h.offered
  have hmem := List.mem_of_find?_eq_some hoffer.item_eq
  have hid : found.id = item.id := by simpa using List.find?_some hoffer.item_eq
  obtain rfl := Graph.eq_of_item_id (Graph.item_mem_of_status? hoffer.status_eq hmem) hitem hid
  obtain ⟨_, _, hadmits⟩ := surfaceItem?_eq_some hoffer.shown_eq
  refine ⟨⟨form, rfl⟩, ⟨status, hoffer.status_eq, hmem⟩, he, fun admitted hl hne => ?_⟩
  exact Directory.vouches_of_admits (hadmits admitted hl) hne

/-- **An operation only adds lines to the history, and those about interactive items have
authority.** -/
theorem operate_authorised (s : Scene) (op : Operation) (record : Record) (world : World) :
    ∃ added, (s.operate op record world).record.history = record.history ++ added ∧
      ∀ e ∈ added, ∀ item ∈ s.graph.workflow.items, item.isInteractive = true →
        e.action = some item.id → s.Authorised op record world item e := by
  have h := s.operate_operated op record world
  generalize s.operate op record world = reply at h
  cases h with
  | @refused p _ hl =>
      refine ⟨[], ?_, fun e he => absurd he List.not_mem_nil⟩
      show p.record.history = _
      rw [hl.record, List.append_nil]
      rfl
  | @opened p _ hopen =>
      have hstart : s.Signed record (Pass.start record world) :=
        ⟨[], (List.append_nil _).symm, fun e he => absurd he List.not_mem_nil⟩
      obtain ⟨added, hadded, hsigned⟩ := (s.lasting_signed record).goOn hopen hstart
      obtain ⟨added', htrail⟩ := (s.kept_trail record op).goOn hopen.trail
      obtain rfl := List.append_cancel_left (htrail.history.symm.trans hadded)
      refine ⟨added', htrail.history, fun e he item hitem hint hid => ?_⟩
      rcases htrail.named e he with ⟨jump, hjump, hj, hid'⟩ | ⟨_, fired, hf, hid'⟩
      · obtain rfl := Graph.eq_of_item_id hitem hjump (Option.some.inj (hid.symm.trans hid'))
        rw [Item.not_isInteractive_of_jumpsAlone hj] at hint
        cases hint
      · obtain rfl := Graph.eq_of_item_id hitem hf.mem_items (Option.some.inj (hid.symm.trans hid'))
        obtain ⟨form, rfl⟩ := hf.submit_of_isInteractive hint
        exact hopen.authorised hitem (hsigned e he)

end Scene

/-! ### Calls one after the other -/

/-- An operation with the engine that does it, who asks for it and when, and the world around. -/
structure Call where
  engine : Engine
  moment : Moment
  op : Operation
  world : World

namespace Call

def scene (c : Call) (g : Graph) : Scene := ⟨c.engine, g, c.moment⟩

def reply (c : Call) (g : Graph) (record : Record) : Reply Outcome :=
  (c.scene g).operate c.op record c.world

/-- The call adds the line to the history of the record, at a position. -/
def Adds (c : Call) (g : Graph) (record : Record) (k : ℕ) (e : Entry) : Prop :=
  record.history.length ≤ k ∧ (c.reply g record).record.history[k]? = some e

end Call

/-- The record after calls one after the other, each in a world of its own. -/
def Graph.after (g : Graph) (record : Record) (calls : List Call) : Record :=
  calls.foldl (fun r c => (c.reply g r).record) record

theorem Graph.after_concat (g : Graph) (record : Record) (calls : List Call) (c : Call) :
    g.after record (calls ++ [c]) = (c.reply g (g.after record calls)).record := by
  unfold after
  rw [List.foldl_append]
  rfl

/-- **Every line about an interactive item was added with authority.** -/
theorem Graph.authorised_of_line {g : Graph} {record : Record} (hnew : record.history = [])
    {calls : List Call} {k : ℕ} {e : Entry} (hline : (g.after record calls).history[k]? = some e)
    {item : Item} (hitem : item ∈ g.workflow.items) (hint : item.isInteractive = true)
    (hid : e.action = some item.id) :
    ∃ before c rest, calls = before ++ c :: rest ∧ c.Adds g (g.after record before) k e ∧
      (c.scene g).Authorised c.op (g.after record before) c.world item e := by
  induction calls using List.reverseRecOn with
  | nil =>
      rw [show g.after record [] = record from rfl, hnew] at hline
      cases hline
  | append_singleton calls c ih =>
      rw [after_concat] at hline
      obtain ⟨added, hadded, hauth⟩ :=
        (c.scene g).operate_authorised c.op (g.after record calls) c.world
      by_cases hk : k < (g.after record calls).history.length
      · -- the line was there before the last call
        have hold : (g.after record calls).history[k]? = some e := by
          rw [← hline, Call.reply, hadded, List.getElem?_append_left hk]
        obtain ⟨before, c', rest, rfl, h⟩ := ih hold
        exact ⟨before, c', rest ++ [c], by simp, h⟩
      · have hle := Nat.le_of_not_lt hk
        refine ⟨calls, c, [], rfl, ⟨hle, hline⟩, hauth e ?_ item hitem hint hid⟩
        rw [Call.reply, hadded, List.getElem?_append_right hle] at hline
        exact List.mem_of_getElem? hline

/-- **Nothing interactive happens without authority.**  Take a record from its creation on, with any
calls one after the other.  Every line of its history about an interactive item was added by a
submission of that item with authority, as the record and the directory were before that call.  And
a call that does not start a global action does the same and answers the same as if the action had
no items. -/
theorem Graph.authority_lasts (g : Graph) (id : Uuid) (now : Instant) (data : Table Json)
    (submitter : Option String) (calls : List Call) :
    let after := g.after (Record.create g.workflow id now data submitter)
    (∀ (k : ℕ) (e : Entry), (after calls).history[k]? = some e →
      ∀ item ∈ g.workflow.items, item.isInteractive = true → e.action = some item.id →
        ∃ before c rest, calls = before ++ c :: rest ∧ c.Adds g (after before) k e ∧
          (c.scene g).Authorised c.op (after before) c.world item e) ∧
    ∀ (before : List Call) (c : Call) (rest : List Call), calls = before ++ c :: rest →
      ∀ action ∈ g.workflow.globalActions,
        ¬ (c.scene g).Starts (after before) c.world action c.op →
        c.reply (g.disarm action.id) (after before) = c.reply g (after before) := by
  intro after
  constructor
  · intro k e hline item hitem hint hid
    exact authorised_of_line rfl hline hitem hint hid
  · intro before c rest _ action ha hnot
    exact Scene.operate_disarm_of_not_starts (s := c.scene g) ha hnot

namespace Sample

/-- The submitter sends the request out. -/
def asked : Call :=
  ⟨.ofSettings .default .accepting, (scene "ada").moment, .submit "ask" ∅, world⟩

/-- The line about the request being sent out. -/
def askedLine : Entry := ⟨now, some "advice", some "ada", .interactive, some "ask", none⟩

end Sample

/-- The line about the request being sent out has authority, and sending it out does nothing of what
withdrawing it does. -/
theorem Graph.authority_lasts_sample :
    (Sample.graph.after Sample.record [Sample.asked]).history[0]? = some Sample.askedLine ∧
    (∃ before c rest, [Sample.asked] = before ++ c :: rest ∧
      c.Adds Sample.graph (Sample.graph.after Sample.record before) 0 Sample.askedLine ∧
      (c.scene Sample.graph).Authorised c.op (Sample.graph.after Sample.record before) c.world
        Sample.ask Sample.askedLine) ∧
    ∀ action ∈ Sample.graph.workflow.globalActions,
      Sample.asked.reply (Sample.graph.disarm action.id) Sample.record =
        Sample.asked.reply Sample.graph Sample.record := by
  obtain ⟨hlines, hcalls⟩ :=
    Sample.graph.authority_lasts .nil Sample.now ∅ (some "ada") [Sample.asked]
  have hline : (Sample.graph.after Sample.record [Sample.asked]).history[0]? =
      some Sample.askedLine := by decide +kernel
  have hitem : Sample.ask ∈ Sample.graph.workflow.items := by decide +kernel
  refine ⟨hline, hlines 0 Sample.askedLine hline Sample.ask hitem rfl rfl, fun action ha => ?_⟩
  exact hcalls [] Sample.asked [] rfl action ha (by rintro ⟨⟩)

end Docket
