import Docket.Proofs.Engine.Operation

/-! # The history is a path of the graph

Each move of an operation adds one line to the history of the record.  Read in order, the lines with
a status are a path: every line names the item that made the move, the item leads from the place
before to the place after, and the place after has the status of the line.

* `Graph.Path` is the path.  Its first move may be made by an item that the operation fires itself
  (`Scene.Fires`); every other move is made by a jump of the status that the record is in.  Places
  carry the marks, so a jump back leads to the status that is marked last at that moment.
* `Scene.Trail` says that the pass so far has left such a path, as long as it has moves.
  `Scene.kept_trail` is the step and `Scene.Opened.trail` the beginning.
* `Scene.operate_history_path` is the statement about operations. -/

namespace Docket

/-- `item` takes a record from `a` to `b`, and `e` is the line about it. -/
structure Item.Takes (item : Item) (a : Place) (e : Entry) (b : Place) : Prop where
  leads : ∃ target mark, item.route? = some (target, mark) ∧ Leads target mark a b
  action : e.action = some item.id
  status : e.status = some b.status

/-- The lines about moves that lead from a place to another.  The first may be about an item that is
fired; all others are about jumps that wait for no trigger, of the status that the record is in. -/
inductive Graph.Path (g : Graph) (fired : Item → Prop) : Place → List Entry → Place → Prop
  | here (a : Place) : Path g fired a [] a
  | fired {a b : Place} {item : Item} {e : Entry} : fired item → item.Takes a e b →
      Path g fired a [e] b
  | onward {a b c : Place} {es : List Entry} {e : Entry} {status : Status} {item : Item} :
      Path g fired a es b → g.status? b.status = some status → item ∈ status.items →
      item.jumpsAlone = true → item.Takes b e c → Path g fired a (es ++ [e]) c

/-- The lines about moves. -/
def moves (entries : List Entry) : List Entry := entries.filter fun e => e.status.isSome

theorem moves_append (es fs : List Entry) : moves (es ++ fs) = moves es ++ moves fs :=
  List.filter_append es fs

theorem moves_of_some {e : Entry} {status : String} (h : e.status = some status) :
    moves [e] = [e] := by
  simp [moves, h]

theorem moves_of_none {e : Entry} (h : e.status = none) : moves [e] = [] := by
  simp [moves, h]

theorem Graph.Path.status_eq {g : Graph} {fired : Item → Prop} {a b : Place} {es : List Entry}
    (h : g.Path fired a es b) : b.status = (es.getLast?.bind Entry.status).getD a.status := by
  cases h with
  | here => rfl
  | fired _ ht => rw [List.getLast?_singleton, Option.bind_some, ht.status]; rfl
  | onward _ _ _ _ ht => rw [List.getLast?_concat, Option.bind_some, ht.status]; rfl

theorem Item.isInteractive_choice {item : Item} {choice : Choice}
    (h : item.action = .choice choice) : item.isInteractive = true := by
  simp [isInteractive, h]

theorem Item.isInteractive_edit {item : Item} {edit : Edit} (h : item.action = .edit edit) :
    item.isInteractive = true := by
  simp [isInteractive, h]

theorem Item.not_isInteractive_of_jumpsAlone {item : Item} (h : item.jumpsAlone = true) :
    item.isInteractive = false := by
  unfold jumpsAlone at h
  unfold isInteractive
  cases ha : item.action with
  | jump _ => rfl
  | choice _ => simp [ha] at h
  | edit _ => simp [ha] at h
  | dispatch _ => rfl
  | message _ => rfl
  | notify _ => rfl
  | changeRole _ _ => rfl

/-- The line names a jump of the workflow that waits for no trigger. -/
def Graph.NamesJump (g : Graph) (e : Entry) : Prop :=
  ∃ item ∈ g.workflow.items, item.jumpsAlone = true ∧ e.action = some item.id

namespace Scene

variable {s : Scene} {op : Operation} {record : Record} {world : World} {p q : Pass}

/-! ### The items that an operation fires -/

/-- The items that an operation fires itself: the item that is submitted, the first jump that waits
for the trigger and whose condition holds or else the jumps of the global action that answers to it,
and the jumps of the global action that is run. -/
def Fires (s : Scene) (record : Record) : Operation → Item → Prop
  | .run, _ => False
  | .submit id _, item => item.isInteractive = true ∧
      ∃ status, s.graph.status? record.status = some status ∧ status.item? id = some item
  | .trigger name, item => ∃ status, s.graph.status? record.status = some status ∧
      let waiting := status.items.find?
        (s.firedBy (record.bindings s.graph.workflow s.moment) name)
      (waiting = some item ∨ waiting = none ∧ item.jumpsAlone = true ∧ ∃ action,
        s.graph.workflow.globalActions.find? (fun a => a.answersTo name) = some action ∧
        item ∈ action.items)
  | .runGlobal id, item => item.jumpsAlone = true ∧
      ∃ action, s.graph.workflow.globalAction? id = some action ∧ item ∈ action.items

theorem Fires.mem_items {item : Item} (h : s.Fires record op item) :
    item ∈ s.graph.workflow.items := by
  cases op with
  | run => exact absurd h id
  | submit id form =>
      obtain ⟨_, status, hs, hi⟩ := h
      exact Graph.item_mem_of_status? hs (List.mem_of_find?_eq_some hi)
  | trigger name =>
      obtain ⟨status, hs, hi | ⟨_, _, action, ha, hi⟩⟩ := h
      · exact Graph.item_mem_of_status? hs (List.mem_of_find?_eq_some hi)
      · exact Workflow.mem_items_of_globalAction (List.mem_of_find?_eq_some ha) hi
  | runGlobal id =>
      obtain ⟨_, action, ha, hi⟩ := h
      exact Workflow.mem_items_of_globalAction (List.mem_of_find?_eq_some ha) hi

theorem not_isInteractive_of_firedBy {vars : Expression.Variables} {name : String} {item : Item}
    (h : s.firedBy vars name item = true) : item.isInteractive = false := by
  unfold firedBy at h
  obtain ⟨jump, hj⟩ := Option.isSome_iff_exists.mp (Bool.and_eq_true_iff.mp h).1
  simp [Item.isInteractive, (triggeredJump?_eq_some hj).1]

theorem Fires.submit_of_isInteractive {item : Item} (h : s.Fires record op item)
    (hint : item.isInteractive = true) : ∃ form, op = .submit item.id form := by
  cases op with
  | run => exact absurd h id
  | submit id form =>
      obtain ⟨_, status, _, hi⟩ := h
      have hid := List.find?_some hi
      rw [decide_eq_true_eq] at hid
      exact ⟨form, by rw [hid]⟩
  | trigger name =>
      obtain ⟨status, _, hi | ⟨_, hj, _⟩⟩ := h
      · rw [not_isInteractive_of_firedBy (List.find?_some hi)] at hint
        cases hint
      · rw [Item.not_isInteractive_of_jumpsAlone hj] at hint
        cases hint
  | runGlobal id =>
      rw [Item.not_isInteractive_of_jumpsAlone h.1] at hint
      cases hint

/-! ### The trail of a pass -/

/-- What a pass has added to the history so far. -/
structure TrailOf (s : Scene) (record : Record) (op : Operation) (p : Pass) (added : List Entry) :
    Prop where
  history : p.record.history = record.history ++ added
  path : s.graph.Path (s.Fires record op) record.place (moves added) p.record.place
  hops : p.hops = (moves added).length
  named : ∀ e ∈ added, s.graph.NamesJump e ∨
    added.head? = some e ∧ ∃ item, s.Fires record op item ∧ e.action = some item.id

/-- The pass so far has left a path of the graph in the history of its record. -/
def Trail (s : Scene) (record : Record) (op : Operation) (p : Pass) : Prop :=
  ∃ added, s.TrailOf record op p added

theorem Trail.sameCourse (hb : p.SameCourse q) (h : s.Trail record op p) : s.Trail record op q := by
  obtain ⟨added, h⟩ := h
  refine ⟨added, ?_, ?_, ?_, h.named⟩
  · rw [hb.history]; exact h.history
  · rw [hb.place]; exact h.path
  · rw [hb.hops]; exact h.hops

theorem trail_of_sameCourse (hb : (Pass.start record world).SameCourse p) : s.Trail record op p := by
  refine Trail.sameCourse hb ⟨[], ?_, .here _, rfl, fun e he => absurd he List.not_mem_nil⟩
  exact (List.append_nil _).symm

theorem takes_arrive (s : Scene) (origin : Origin) {item : Item} {target : String} {mark : Bool}
    {a next : Place} (hr : item.route? = some (target, mark)) (hl : Leads target mark a next) :
    item.Takes a (s.entry item (some next.status) origin) next :=
  ⟨⟨target, mark, hr, hl⟩, rfl, rfl⟩

/-- The first move of an operation may be made by an item that it fires. -/
theorem trail_of_fired {item : Item} {origin : Origin} {target : String} {mark : Bool} {next : Place}
    (hb : (Pass.start record world).SameCourse p) (hf : s.Fires record op item)
    (hr : item.route? = some (target, mark)) (hl : Leads target mark p.record.place next) :
    s.Trail record op (s.arrive item p origin next) := by
  have ht := s.takes_arrive origin hr hl
  rw [hb.place] at ht
  refine ⟨[s.entry item (some next.status) origin], ?_, ?_, ?_, ?_⟩
  · show p.record.history ++ _ = _
    rw [hb.history]; rfl
  · rw [moves_of_some ht.status]
    exact .fired hf ht
  · show p.hops + 1 = _
    rw [hb.hops, moves_of_some ht.status]; rfl
  · intro e he
    obtain rfl := List.mem_singleton.mp he
    exact Or.inr ⟨rfl, item, hf, rfl⟩

/-- **A pass goes on along a path of the graph.** -/
theorem kept_trail (s : Scene) (record : Record) (op : Operation) : s.Kept (s.Trail record op) where
  sameCourse hb hp := hp.sameCourse hb
  ending _ := by
    rintro ⟨added, h⟩
    exact ⟨added, h.history, h.path, h.hops, h.named⟩
  arrive := by
    rintro p status item vars m next hs hi hperf _ hl ⟨added, h⟩
    obtain ⟨_, hj, hr⟩ := perform_eq_some hperf
    have ht := s.takes_arrive m.origin hr hl
    refine ⟨added ++ [s.entry item (some next.status) m.origin], ?_, ?_, ?_, ?_⟩
    · show p.record.history ++ _ = _
      rw [h.history, List.append_assoc]
    · rw [moves_append, moves_of_some ht.status]
      exact .onward h.path hs hi hj ht
    · show p.hops + 1 = _
      rw [h.hops, moves_append, moves_of_some ht.status, List.length_append]; rfl
    · intro e he
      rcases List.mem_append.mp he with he | he
      · refine (h.named e he).imp id ?_
        rintro ⟨hhead, hf⟩
        exact ⟨by rw [List.head?_append, hhead]; rfl, hf⟩
      · obtain rfl := List.mem_singleton.mp he
        exact Or.inl ⟨item, Graph.item_mem_of_status? hs hi, hj, rfl⟩

/-- A move by an item that the operation fires leaves a path, whatever becomes of it. -/
theorem trail_move {item : Item} {m : Move} (hb : (Pass.start record world).SameCourse p)
    (hf : s.Fires record op item) (hr : item.route? = some (m.target, m.mark)) :
    s.Trail record op (s.move item m p).1 := by
  rcases s.move_cases item p m with ⟨_, hm⟩ | ⟨_, _, _, hm⟩ | ⟨_, next, hl, hm⟩
  · rw [hm]; exact (s.kept_trail record op).cutOff (trail_of_sameCourse hb)
  · rw [hm]; exact trail_of_sameCourse hb
  · rw [hm]; exact trail_of_fired hb hf hr hl

theorem trail_noteEdit {item : Item} (hf : s.Fires record op item)
    (hh : p.record.history = record.history) (hp : p.record.place = record.place) (h0 : p.hops = 0) :
    s.Trail record op (s.noteEdit item p) := by
  have hnote : (s.entry item none s.moment.origin).status = none := rfl
  refine ⟨[s.entry item none s.moment.origin], ?_, ?_, ?_, ?_⟩
  · show p.record.history ++ _ = _
    rw [hh]
  · rw [moves_of_none hnote]
    show s.graph.Path _ record.place [] p.record.place
    rw [hp]
    exact .here _
  · rw [moves_of_none hnote]
    exact h0
  · intro e he
    obtain rfl := List.mem_singleton.mp he
    exact Or.inr ⟨rfl, item, hf, rfl⟩

theorem trail_applyEdit {item : Item} {edit : Edit} {form : Table Json}
    (hf : s.Fires record op item) (ha : item.action = .edit edit) :
    s.Trail record op (s.applyEdit item edit form (Pass.start record world)) := by
  have h := s.applyEdit_edited item edit form (Pass.start record world)
  generalize s.applyEdit item edit form (Pass.start record world) = q at h
  cases h with
  | noted => exact trail_noteEdit hf rfl rfl rfl
  | limited => exact trail_noteEdit hf rfl rfl rfl
  | moved ht _ hl =>
      obtain ⟨added, h⟩ := trail_of_fired (Pass.SameCourse.refl (Pass.start record world)) hf
        (Item.route?_edit ha ht) hl
      exact ⟨added, h.history, h.path, h.hops, h.named⟩

theorem trail_performGlobal {vars : Expression.Variables} {action : GlobalAction}
    (hb : (Pass.start record world).SameCourse p)
    (hf : ∀ item ∈ action.items, item.jumpsAlone = true → s.Fires record op item) :
    s.Trail record op (s.performGlobal vars action.items p) := by
  have h := s.performGlobal_performed vars action.items p
  generalize s.performGlobal vars action.items p = q at h
  cases h with
  | through hq => exact trail_of_sameCourse (hb.trans hq)
  | moved hq hi _ hperf _ hl =>
      obtain ⟨_, hj, hr⟩ := perform_eq_some hperf
      exact trail_of_fired (hb.trans hq) (hf _ hi hj) hr hl
  | limited hq => exact (s.kept_trail record op).cutOff (trail_of_sameCourse (hb.trans hq))

/-- However an operation opens a pass, what it fires leaves a path. -/
theorem Opened.trail (h : s.Opened record world op p) : s.Trail record op p := by
  cases h with
  | alone => exact trail_of_sameCourse (Pass.SameCourse.refl _)
  | chosen hs hi ha =>
      exact trail_move (Pass.SameCourse.refl _) ⟨Item.isInteractive_choice ha, _, hs, hi⟩
        (Item.route?_choice ha)
  | edited hs hi ha => exact trail_applyEdit ⟨Item.isInteractive_edit ha, _, hs, hi⟩ ha
  | triggered hs hf ha hl =>
      exact trail_move hl.sameCourse ⟨_, hs, Or.inl hf⟩ (Item.route?_jump ha)
  | answered hs hf hg hl =>
      exact trail_performGlobal hl.sameCourse fun item hi hj =>
        ⟨_, hs, Or.inr ⟨hf, hj, _, hg, hi⟩⟩
  | commanded _ hg =>
      exact trail_performGlobal (Pass.SameCourse.refl _) fun item hi hj => ⟨hj, _, hg, hi⟩

/-- **The history is a path of the graph.**  An operation that succeeds only adds lines to the
history.  Those with a status are a path from the place of the record before to its place after;
their number is that of the moves, and the last of them has the status of the record.  A line that
names an interactive item is the first, and the operation is a submission of that item. -/
theorem operate_history_path {outcome : Outcome}
    (hok : (s.operate op record world).answer = .ok outcome) :
    ∃ added, (s.operate op record world).record.history = record.history ++ added ∧
      s.graph.Path (s.Fires record op) record.place (moves added)
        (s.operate op record world).record.place ∧
      outcome.hops = (moves added).length ∧
      (s.operate op record world).record.status =
        ((moves added).getLast?.bind Entry.status).getD record.status ∧
      ∀ e ∈ added, ∀ item ∈ s.graph.workflow.items, item.isInteractive = true →
        e.action = some item.id → added.head? = some e ∧ ∃ form, op = .submit item.id form := by
  have h := s.operate_operated op record world
  generalize s.operate op record world = reply at h hok
  cases h with
  | refused => cases hok
  | @opened p _ hopen =>
      obtain ⟨added, h⟩ := (s.kept_trail record op).goOn hopen.trail
      have hout : outcome = (s.goOn p).1.outcome := by
        unfold finish at hok
        cases hgo : (s.goOn p).2 with
        | error e => rw [hgo] at hok; cases hok
        | ok u => rw [hgo] at hok; cases hok; rfl
      refine ⟨added, h.history, h.path, ?_, h.path.status_eq, ?_⟩
      · rw [hout]; exact h.hops
      · intro e he item hi hint hid
        rcases h.named e he with ⟨item', hi', hj, hid'⟩ | ⟨hhead, item', hf, hid'⟩
        · have heq := Graph.eq_of_item_id hi hi' (Option.some.inj (hid.symm.trans hid'))
          rw [heq, Item.not_isInteractive_of_jumpsAlone hj] at hint
          cases hint
        · have heq := Graph.eq_of_item_id hi hf.mem_items (Option.some.inj (hid.symm.trans hid'))
          rw [heq] at hint ⊢
          exact ⟨hhead, hf.submit_of_isInteractive hint⟩

/-- The request of the small workflow goes out for advice, with a mark, and comes back to it. -/
theorem operate_history_path_sample :
    (Scene.operate (Sample.scene "ada") (.submit "ask" ∅) Sample.record Sample.world).answer =
      .ok ⟨"draft", .suspended "ask", 2, 0, []⟩ ∧
    ∃ added, (Scene.operate (Sample.scene "ada") (.submit "ask" ∅) Sample.record
        Sample.world).record.history = [] ++ added ∧
      Sample.graph.Path ((Sample.scene "ada").Fires Sample.record (.submit "ask" ∅)) ⟨"draft", []⟩
        (moves added) ⟨"draft", []⟩ ∧
      2 = (moves added).length := by
  have hok : (Scene.operate (Sample.scene "ada") (.submit "ask" ∅) Sample.record
      Sample.world).answer = .ok ⟨"draft", .suspended "ask", 2, 0, []⟩ := by rfl
  obtain ⟨added, hh, hp, hn, _⟩ := operate_history_path hok
  exact ⟨hok, added, hh, hp, hn⟩

end Scene
end Docket
