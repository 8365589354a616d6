import Docket.Proofs.Engine.Account
import Docket.Proofs.Engine.Effects
import Docket.Proofs.Engine.Performed

/-! # Effects belong to the status they were configured in

An operation leads its record through a few statuses, and the time that the record spends in one of
them is a `Stint`.  Whatever the operation leaves behind it leaves behind in some stint, at a site with
the status of that stint, and by an item that is on duty there: an item of the status or, as long as
the record has not been moved, of the global action that the operation runs.

* `Scene.Unfolds` is what an operation does, told step by step: items act, a move closes the stint and
  opens the next one, and some steps are beside both.  Sites are those of the pass at that moment.
* `Unfolds.told` and `Unfolds.belongs` are the two inductions over the steps.
* For every function `X` of a pass, `Unfolds.X` or `Comes.X` says that it unfolds so.  Items that are
  on duty when a list of items has its turn are on duty until one of them moves the record
  (`Unfolds.next`).
* `Scene.effects_belong` is the statement about operations and about what a person is shown. -/

namespace Docket

open Expression (Variables)

/-! ### Stints -/

/-- The time of a record in one status, with the effects that were left behind in it. -/
structure Stint where
  status : String
  effects : List Effect
deriving DecidableEq, Repr

def Stint.add (stint : Stint) (es : List Effect) : Stint :=
  { stint with effects := stint.effects ++ es }

/-- The statuses that a record has entered, as its history tells. -/
def Record.entered (r : Record) : List String := r.history.filterMap Entry.status

/-- `q` differs from `p` in nothing that the stints of the record tell. -/
structure Pass.SameStints (p q : Pass) : Prop where
  status : q.record.status = p.record.status
  id : q.record.id = p.record.id
  workflowId : q.record.workflowId = p.record.workflowId
  entered : q.record.entered = p.record.entered
  world : q.world = p.world
  failures : q.failures = p.failures
  jobs : q.jobs = p.jobs

namespace Scene

variable {s : Scene} {guests items : List Item} {item : Item} {p q r : Pass} {done : List Stint}
  {stint : Stint} {status : String} {vars : Variables}

/-- After the stints that are done an item is on duty in a status: it is an item of the status, or it
was brought along and the record has not been moved yet. -/
def OnDuty (s : Scene) (guests : List Item) (done : List Stint) (status : String) (item : Item) :
    Prop :=
  (∃ declared, s.graph.status? status = some declared ∧ item ∈ declared.items) ∨
    done = [] ∧ item ∈ guests

/-- From `p` on, the stints that are done and the one that is going on have led to a pass. -/
inductive Unfolds (s : Scene) (guests : List Item) (p : Pass) : List Stint → Stint → Pass → Prop
  | start : Unfolds s guests p [] ⟨p.record.status, []⟩ p
  | acts {done : List Stint} {stint : Stint} {item : Item} {es : List Effect} {q r : Pass} :
      Unfolds s guests p done stint q → s.OnDuty guests done q.record.status item →
      s.Emits item q es r → Unfolds s guests p done (stint.add es) r
  | enters {done : List Stint} {stint : Stint} {item : Item} {q : Pass} (origin : Origin)
      (next : Place) : Unfolds s guests p done stint q →
      s.OnDuty guests done q.record.status item →
      Unfolds s guests p (done ++ [stint]) ⟨next.status, []⟩ (s.arrive item q origin next)
  | same {done : List Stint} {stint : Stint} {q r : Pass} : Unfolds s guests p done stint q →
      q.SameStints r → Unfolds s guests p done stint r

/-- From `p` on, stints of the record have led to `q`. -/
def Comes (s : Scene) (guests : List Item) (p q : Pass) : Prop :=
  ∃ done stint, s.Unfolds guests p done stint q

/-! ### What stints tell -/

/-- What stints tell of the way from `p` to `q`. -/
structure Told (p : Pass) (stints : List Stint) (q : Pass) : Prop where
  gives : Pass.Gives (stints.flatMap Stint.effects) p q
  entered : ∃ later, stints.map Stint.status = p.record.status :: later ∧
    q.record.entered = p.record.entered ++ later
  id : q.record.id = p.record.id
  workflowId : q.record.workflowId = p.record.workflowId

theorem entered_arrive (origin : Origin) (next : Place) :
    (s.arrive item p origin next).record.entered = p.record.entered ++ [next.status] := by
  unfold Record.entered arrive
  simp [entry]

namespace Unfolds

theorem status_eq (h : s.Unfolds guests p done stint q) : stint.status = q.record.status := by
  induction h with
  | start => rfl
  | acts _ _ hemits ih => exact ih.trans hemits.sameCourse.status.symm
  | enters => rfl
  | same _ hsame ih => exact ih.trans hsame.status.symm

/-- **Stints tell all that is new, and in which statuses the record has been.** -/
theorem told (h : s.Unfolds guests p done stint q) : Told p (done ++ [stint]) q := by
  induction h with
  | start =>
      exact ⟨.of_same rfl rfl rfl rfl, ⟨[], rfl, (List.append_nil _).symm⟩, rfl, rfl⟩
  | @acts done stint item es q r _ _ hemits ih =>
      have hrecord := hemits.sameCourse.record
      refine ⟨?_, ?_, ?_, ?_⟩
      · have hgives := ih.gives.trans hemits.gives
        simpa [Stint.add] using hgives
      · obtain ⟨later, hstatuses, hentered⟩ := ih.entered
        refine ⟨later, by simpa [Stint.add] using hstatuses, ?_⟩
        rw [hrecord]
        exact hentered
      · rw [hrecord]
        exact ih.id
      · rw [hrecord]
        exact ih.workflowId
  | @enters done stint item q origin next _ _ ih =>
      obtain ⟨later, hstatuses, hentered⟩ := ih.entered
      refine ⟨?_, ⟨later ++ [next.status], ?_, ?_⟩, ih.id, ih.workflowId⟩
      · have harrive : Pass.Gives [] q (s.arrive item q origin next) := .of_same rfl rfl rfl rfl
        simpa using ih.gives.trans harrive
      · rw [List.map_append, hstatuses]
        rfl
      · rw [entered_arrive, hentered, List.append_assoc]
  | same _ hsame ih =>
      obtain ⟨later, hstatuses, hentered⟩ := ih.entered
      have hgives : Pass.Gives [] _ _ := .of_same (congrArg World.log hsame.world) hsame.failures
        (congrArg World.sent hsame.world) hsame.jobs
      refine ⟨?_, ⟨later, hstatuses, hsame.entered.trans hentered⟩, hsame.id.trans ih.id,
        hsame.workflowId.trans ih.workflowId⟩
      simpa using ih.gives.trans hgives

end Unfolds

/-- The effects of a stint come from its status and from items that serve in it. -/
def Belongs (s : Scene) (guests : List Item) (id : Uuid) (done : List Stint) (stint : Stint) : Prop :=
  ∀ e ∈ stint.effects, ∃ item, s.OnDuty guests done stint.status item ∧
    e.At ⟨s.graph.id, some stint.status, some item.id, some id⟩

/-- **Every effect belongs to the stint in which it was left behind.** -/
theorem Unfolds.belongs (h : s.Unfolds guests p done stint q)
    (hw : p.record.workflowId = s.graph.id) : ∀ before stay, before ++ [stay] <+: done ++ [stint] →
      s.Belongs guests p.record.id before stay := by
  induction h with
  | start =>
      intro before stay hmem
      rcases List.prefix_concat_iff.mp hmem with heq | hnil
      · obtain ⟨rfl, rfl⟩ := List.append_singleton_inj.mp heq
        intro e he
        cases he
      · simp at hnil
  | @acts done stint item es q r h hduty hemits ih =>
      intro before stay hmem
      rcases List.prefix_concat_iff.mp hmem with heq | hdone
      · obtain ⟨rfl, rfl⟩ := List.append_singleton_inj.mp heq
        have hlast := ih before stint List.prefix_rfl
        have hsite : s.site q item =
            ⟨s.graph.id, some stint.status, some item.id, some p.record.id⟩ := by
          unfold site
          rw [h.status_eq, h.told.id]
        intro e he
        rcases List.mem_append.mp he with he | he
        · exact hlast e he
        · rw [← h.status_eq] at hduty
          refine ⟨item, hduty, ?_⟩
          have hat := hemits.comesFrom (h.told.workflowId.trans hw) e he
          rw [hsite] at hat
          exact hat
      · exact ih before stay (hdone.trans (List.prefix_append ..))
  | @enters done stint item q origin next h hduty ih =>
      intro before stay hmem
      rcases List.prefix_concat_iff.mp hmem with heq | hdone
      · obtain ⟨rfl, rfl⟩ := List.append_singleton_inj.mp heq
        intro e he
        cases he
      · exact ih before stay hdone
  | same _ _ ih => exact ih

/-! ### How a pass unfolds -/

namespace Unfolds

theorem act (h : s.Unfolds guests p done stint q) (hduty : s.OnDuty guests done q.record.status item)
    (hacts : s.Acts item q r) : ∃ stay, s.Unfolds guests p done stay r := by
  obtain ⟨es, hemits⟩ := hacts
  exact ⟨stint.add es, h.acts hduty hemits⟩

/-- An item that leaves effects behind leaves the record where it is, and so the items after it remain
on duty. -/
theorem next (h : s.Unfolds guests p done stint q) {rest : List Item}
    (hduty : ∀ i ∈ item :: rest, s.OnDuty guests done q.record.status i) (hacts : s.Acts item q r) :
    ∃ stay, s.Unfolds guests p done stay r ∧
      ∀ i ∈ rest, s.OnDuty guests done r.record.status i := by
  obtain ⟨hitem, hrest⟩ := List.forall_mem_cons.mp hduty
  obtain ⟨es, hemits⟩ := hacts
  exact ⟨stint.add es, h.acts hitem hemits, hemits.sameCourse.status ▸ hrest⟩

theorem ending (h : s.Unfolds guests p done stint q) (e : Option PassState) :
    s.Unfolds guests p done stint { q with ending := e } :=
  h.same ⟨rfl, rfl, rfl, rfl, rfl, rfl, rfl⟩

theorem noteEdit (h : s.Unfolds guests p done stint q) :
    s.Unfolds guests p done stint (s.noteEdit item q) := by
  refine h.same ⟨rfl, rfl, rfl, ?_, rfl, rfl, rfl⟩
  unfold Record.entered Scene.noteEdit
  simp [entry]

theorem filledIn (h : s.Unfolds guests p done stint q) (form : Table Json) :
    s.Unfolds guests p done stint (q.filledIn form) :=
  h.same ⟨rfl, rfl, rfl, rfl, rfl, rfl, rfl⟩

theorem cutOff (h : s.Unfolds guests p done stint q)
    (hduty : s.OnDuty guests done q.record.status item) :
    ∃ stay, s.Unfolds guests p done stay (s.cutOff item q) := by
  obtain ⟨stay, h⟩ := h.act hduty (.fail q _ _)
  exact ⟨stay, h.ending _⟩

theorem move (h : s.Unfolds guests p done stint q)
    (hduty : s.OnDuty guests done q.record.status item) (m : Move) :
    s.Comes guests p (s.move item m q).1 := by
  rcases s.move_cases item q m with ⟨_, hm⟩ | ⟨_, _, _, hm⟩ | ⟨_, next, _, hm⟩
  · rw [hm]
    exact ⟨done, h.cutOff hduty⟩
  · rw [hm]
    exact ⟨done, stint, h⟩
  · rw [hm]
    exact ⟨_, _, h.enters m.origin next hduty⟩

theorem applyEdit (h : s.Unfolds guests p done stint q)
    (hduty : s.OnDuty guests done q.record.status item) (edit : Edit) (form : Table Json) :
    s.Comes guests p (s.applyEdit item edit form q) := by
  have hf := h.filledIn form
  have he := s.applyEdit_edited item edit form q
  generalize s.applyEdit item edit form q = r at he
  cases he with
  | noted => exact ⟨done, stint, hf.noteEdit⟩
  | limited =>
      obtain ⟨stay, hcut⟩ := hf.cutOff hduty
      exact ⟨done, stay, hcut.noteEdit⟩
  | moved => exact ⟨_, _, hf.enters _ _ hduty⟩

/-- **A visit unfolds**, if all its items are on duty. -/
theorem visit (h : s.Unfolds guests p done stint q)
    (hduty : ∀ item ∈ items, s.OnDuty guests done q.record.status item) (vars : Variables) :
    s.Comes guests p (s.visit vars items q).1 := by
  induction items generalizing stint q with
  | nil => exact ⟨done, stint, h⟩
  | cons item rest ih =>
      have hitem := hduty item List.mem_cons_self
      have onward : ∀ {r : Pass}, s.Acts item q r → s.Comes guests p (s.visit vars rest r).1 := by
        intro r hacts
        obtain ⟨stay, hstay, hrest⟩ := h.next hduty hacts
        exact ih hstay hrest
      have hmet := s.visit_met vars item rest q
      generalize s.visit vars (item :: rest) q = v at hmet
      cases hmet with
      | closed => exact onward (s.noteCondition_acts item q vars)
      | suspended => exact ⟨done, stint, h.ending _⟩
      | passed _ _ hperf =>
          have hacts := s.perform_acts item q vars
          rw [hperf] at hacts
          exact onward hacts
      | moved => exact ⟨_, _, h.enters _ _ hitem⟩
      | limited => exact ⟨done, h.cutOff hitem⟩

theorem performGlobal (h : s.Unfolds guests p done stint q)
    (hduty : ∀ item ∈ items, s.OnDuty guests done q.record.status item) (vars : Variables) :
    s.Comes guests p (s.performGlobal vars items q) := by
  induction items generalizing stint q with
  | nil => exact ⟨done, stint, h⟩
  | cons item rest ih =>
      have hitem := hduty item List.mem_cons_self
      have onward : ∀ {r : Pass}, s.Acts item q r →
          s.Comes guests p (s.performGlobal vars rest r) := by
        intro r hacts
        obtain ⟨stay, hstay, hrest⟩ := h.next hduty hacts
        exact ih hstay hrest
      have hran := s.performGlobal_ran vars item rest q
      generalize s.performGlobal vars (item :: rest) q = r at hran
      cases hran with
      | skipped => exact onward (.refl q)
      | closed => exact onward (s.noteCondition_acts item q vars)
      | passed _ hperf =>
          have hacts := s.perform_acts item q vars
          rw [hperf] at hacts
          exact onward hacts
      | moved => exact ⟨_, _, h.enters _ _ hitem⟩
      | limited => exact ⟨done, h.cutOff hitem⟩

end Unfolds

theorem onDuty_of_status? {declared : Status} (hs : s.graph.status? status = some declared) :
    ∀ item ∈ declared.items, s.OnDuty guests done status item :=
  fun _ hi => .inl ⟨declared, hs, hi⟩

namespace Comes

theorem ending (h : s.Comes guests p q) (e : Option PassState) :
    s.Comes guests p { q with ending := e } := by
  obtain ⟨done, stint, h⟩ := h
  exact ⟨done, stint, h.ending e⟩

/-- **A pass unfolds**, one stint for each status that it visits. -/
theorem drive (h : s.Comes guests p q) (left : ℕ) : s.Comes guests p (s.drive left q).1 := by
  have visited : ∀ {q r : Pass} {declared : Status} {v : Visit},
      s.graph.status? q.record.status = some declared →
      s.visit (s.bindings q) declared.items q = (r, v) → s.Comes guests p q →
      s.Comes guests p r := by
    intro q r declared v hs hv h
    obtain ⟨done, stint, h⟩ := h
    have hcomes := h.visit (onDuty_of_status? hs) (s.bindings q)
    rw [hv] at hcomes
    exact hcomes
  fun_induction Scene.drive s left q with
  | case1 => exact h
  | case2 left q declared hs r hv => exact visited hs hv h
  | case3 left q declared hs r hv => exact (visited hs hv h).ending _
  | case4 q declared hs r hv => exact visited hs hv h
  | case5 q declared hs r left hv ih => exact ih (visited hs hv h)

theorem goOn (h : s.Comes guests p q) : s.Comes guests p (s.goOn q).1 := by
  unfold Scene.goOn
  split
  · exact h
  · exact h.drive _

end Comes

/-! ### Lists of items that are only looked at -/

section Lists

variable (h : s.Unfolds guests p done stint q)
  (hduty : ∀ item ∈ items, s.OnDuty guests done q.record.status item)

include h hduty

theorem Unfolds.firstTriggered (vars : Variables) (name : String) :
    ∃ stay, s.Unfolds guests p done stay (s.firstTriggered vars name items q).1 := by
  induction items generalizing stint q with
  | nil => exact ⟨stint, h⟩
  | cons item rest ih =>
      unfold Scene.firstTriggered
      split
      · exact ih h (List.forall_mem_cons.mp hduty).2
      · obtain ⟨stay, hstay, hrest⟩ := h.next hduty (s.noteCondition_acts item q vars)
        simp only
        split
        · exact ⟨stay, hstay⟩
        · exact ih hstay hrest

theorem Unfolds.surfaceItems (vars : Variables) :
    ∃ stay, s.Unfolds guests p done stay (s.surfaceItems vars items q).1 := by
  induction items generalizing stint q with
  | nil => exact ⟨stint, h⟩
  | cons item rest ih =>
      unfold Scene.surfaceItems
      split
      · exact ih h (List.forall_mem_cons.mp hduty).2
      · obtain ⟨stay, hstay, hrest⟩ := h.next hduty (s.noteCondition_acts item q vars)
        exact ih hstay hrest

theorem Unfolds.shownMessages (vars : Variables) :
    ∃ stay, s.Unfolds guests p done stay (s.shownMessages vars items q).1 := by
  induction items generalizing stint q with
  | nil => exact ⟨stint, h⟩
  | cons item rest ih =>
      have onward : ∀ {r : Pass}, s.Acts item q r →
          ∃ stay, s.Unfolds guests p done stay (s.shownMessages vars rest r).1 := by
        intro r hacts
        obtain ⟨stay, hstay, hrest⟩ := h.next hduty hacts
        exact ih hstay hrest
      have hnote := s.noteCondition_acts item q vars
      unfold Scene.shownMessages
      split
      · next m ha =>
        split
        · simp only
          split
          · exact onward (hnote.trans (s.showMessage_acts item _ vars m))
          · exact onward hnote
        · exact onward (.refl q)
      · exact onward (.refl q)

end Lists

/-! ### Operations -/

/-- The items that an operation brings along: none, or those of the global action that it starts. -/
inductive Brings (s : Scene) (record : Record) (world : World) (op : Operation) : List Item → Prop
  | nothing : Brings s record world op []
  | started {action : GlobalAction} {p : Pass} : s.Runs record world action op p →
      Brings s record world op action.items

/-- Stints of the record have led from `p` to what a reply says. -/
def Yields (s : Scene) (guests : List Item) (p : Pass) (reply : Reply Outcome) : Prop :=
  ∃ q, s.Comes guests p q ∧ reply.record = q.record ∧ reply.world = q.world ∧
    ∀ outcome, reply.answer = .ok outcome → q.outcome = outcome

theorem Comes.refuse (h : s.Comes guests p q) (e : EngineError) :
    s.Yields guests p (refuse q e) := ⟨q, h, rfl, rfl, fun _ hok => nomatch hok⟩

theorem Comes.finish (h : s.Comes guests p q) : s.Yields guests p (finish (s.goOn q)) :=
  ⟨_, h.goOn, rfl, rfl, fun _ hok => (finish_eq_ok.mp hok).2⟩

theorem Comes.start (guests : List Item) (p : Pass) : s.Comes guests p p := ⟨[], _, .start⟩

theorem Unfolds.fire (h : s.Unfolds guests p done stint q)
    (hduty : s.OnDuty guests done q.record.status item) {form : Table Json}
    (hfire : s.fire item form q = .ok r) : s.Comes guests p r := by
  unfold Scene.fire at hfire
  split at hfire
  · split at hfire
    · cases hfire
      exact h.move hduty _
    · cases hfire
  · split at hfire
    · split at hfire
      · cases hfire
      · cases hfire
        exact h.applyEdit hduty _ form
    · cases hfire
  · cases hfire

variable (s) (record : Record) (world : World)

theorem run_yields : s.Yields [] (.start record world) (s.run record world) := by
  unfold run
  simp only
  split
  · exact (Comes.start [] _).refuse _
  · exact (Comes.start [] _).finish

theorem submit_yields (id : String) (form : Table Json) :
    s.Yields [] (.start record world) (s.submit record world id form) := by
  unfold submit
  simp only
  split
  · exact (Comes.start [] _).refuse _
  · next item hchecked =>
    obtain ⟨declared, hs, hi⟩ := status_of_checked hchecked
    have hduty : s.OnDuty [] [] record.status item := .inl ⟨declared, hs, hi⟩
    have hstart : s.Unfolds [] (.start record world) [] _ _ := .start
    have hnote := s.noteCondition_acts item (.start record world) (s.bindings (.start record world))
    have hrecord :=
      (s.noteCondition_sameRecord (s.bindings (.start record world)) item (.start record world)).record
    obtain ⟨stay, hnoted⟩ := hstart.act hduty hnote
    split
    · split
      · exact Comes.refuse ⟨[], stay, hnoted⟩ _
      · next q hfire => exact (hnoted.fire (by rw [hrecord]; exact hduty) hfire).finish
    · exact Comes.refuse ⟨[], stay, hnoted⟩ _

theorem runItems_yields {action : GlobalAction} {p q : Pass} {stint : Stint}
    (h : s.Unfolds action.items p [] stint q) : s.Yields action.items p (s.runItems action q) := by
  have hduty : ∀ item ∈ action.items, s.OnDuty action.items [] q.record.status item :=
    fun _ hi => .inr ⟨rfl, hi⟩
  unfold runItems
  split
  · exact Comes.refuse ⟨[], stint, h⟩ _
  · exact (h.performGlobal hduty _).finish

theorem trigger_yields (name : String) : ∃ guests, s.Brings record world (.trigger name) guests ∧
    s.Yields guests (.start record world) (s.trigger record world name) := by
  unfold trigger
  simp only
  split
  · exact ⟨[], .nothing, (Comes.start [] _).refuse _⟩
  · next declared hchecked =>
    obtain ⟨⟨⟩, _, hstatus⟩ := bind_eq_ok.mp hchecked
    have hs := status?_of_statusOf hstatus
    have hlooked : ∀ guests, ∃ stay, s.Unfolds guests (.start record world) [] stay
        (s.firstTriggered (s.bindings (.start record world)) name declared.items
          (.start record world)).1 :=
      fun guests => Unfolds.firstTriggered .start (onDuty_of_status? hs) _ name
    split
    · next q item jump hfirst =>
      obtain ⟨hfound, -, hl⟩ := firstTriggered_eq_some hfirst
      obtain ⟨stay, hstay⟩ := hlooked []
      rw [hfirst] at hstay
      have hduty : s.OnDuty [] [] q.record.status item := by
        rw [hl.record]
        exact onDuty_of_status? hs item (List.mem_of_find?_eq_some hfound)
      exact ⟨[], .nothing, (hstay.move hduty _).finish⟩
    · next q hfirst =>
      obtain ⟨hnone, hl⟩ := firstTriggered_eq_none hfirst
      split
      · obtain ⟨stay, hstay⟩ := hlooked []
        rw [hfirst] at hstay
        exact ⟨[], .nothing, Comes.refuse ⟨[], stay, hstay⟩ _⟩
      · next action ha =>
        obtain ⟨stay, hstay⟩ := hlooked action.items
        rw [hfirst] at hstay
        exact ⟨action.items, .started (.answered hs hnone ha hl), s.runItems_yields hstay⟩

theorem runGlobal_yields (id : String) : ∃ guests, s.Brings record world (.runGlobal id) guests ∧
    s.Yields guests (.start record world) (s.runGlobal record world id) := by
  have hrefused (e : EngineError) : s.Yields [] (.start record world) (refuse (.start record world) e) :=
    (Comes.start [] _).refuse e
  unfold runGlobal
  simp only
  split
  · exact ⟨[], .nothing, hrefused _⟩
  · split
    · exact ⟨[], .nothing, hrefused _⟩
    · next action ha =>
      split
      · next hany =>
        cases hs : s.graph.status? record.status with
        | none =>
            rw [runItems_of_none (p := .start record world) hs]
            exact ⟨[], .nothing, hrefused _⟩
        | some declared =>
            exact ⟨action.items, .started (.commanded hs ha hany), s.runItems_yields .start⟩
      · exact ⟨[], .nothing, hrefused _⟩

/-- **Every operation unfolds.** -/
theorem operate_yields (op : Operation) : ∃ guests, s.Brings record world op guests ∧
    s.Yields guests (.start record world) (s.operate op record world) := by
  cases op with
  | run => exact ⟨[], .nothing, s.run_yields record world⟩
  | submit id form => exact ⟨[], .nothing, s.submit_yields record world id form⟩
  | trigger name => exact s.trigger_yields record world name
  | runGlobal id => exact s.runGlobal_yields record world id

/-! ### What is left behind -/

/-- The stints of a record account for a reply: for the statuses that the record has entered, for all
that is new in the log and among the notices, and for where each effect comes from. -/
structure Recounts {α : Type} (s : Scene) (guests : List Item) (record : Record) (world : World)
    (stints : List Stint) (reply : Reply α) : Prop where
  unfolds : ∃ done stint q, stints = done ++ [stint] ∧
    s.Unfolds guests (.start record world) done stint q ∧
    reply.record = q.record ∧ reply.world = q.world
  entered : ∃ later, stints.map Stint.status = record.status :: later ∧
    reply.record.entered = record.entered ++ later
  log : reply.world.log = ((stints.flatMap Stint.effects).filterMap Effect.incident?).foldl
    (fun log i => log.next (.record i)) world.log
  sent : reply.world.sent =
    world.sent ++ (stints.flatMap Stint.effects).filterMap Effect.notice?
  belongs : ∀ before stint after, stints = before ++ stint :: after →
    s.Belongs guests record.id before stint

variable {s record world} {α : Type} {reply : Reply α}

theorem Unfolds.recounts (h : s.Unfolds guests (.start record world) done stint q)
    (hw : record.workflowId = s.graph.id) (hrecord : reply.record = q.record)
    (hworld : reply.world = q.world) : s.Recounts guests record world (done ++ [stint]) reply where
  unfolds := ⟨done, stint, q, rfl, h, hrecord, hworld⟩
  entered := by
    rw [hrecord]
    exact h.told.entered
  log := by
    rw [hworld]
    exact h.told.gives.log
  sent := by
    rw [hworld]
    exact h.told.gives.sent
  belongs before stay after hsplit := h.belongs hw before stay ⟨after, by simp [hsplit]⟩

theorem refuse_recounts (e : EngineError) : s.Recounts [] record world [⟨record.status, []⟩]
    (refuse (.start record world) e : Reply α) where
  unfolds := ⟨[], _, _, rfl, .start, rfl, rfl⟩
  entered := ⟨[], rfl, (List.append_nil _).symm⟩
  log := rfl
  sent := (List.append_nil _).symm
  belongs before stint after hsplit := by
    rcases List.append_eq_singleton_iff.mp hsplit.symm with ⟨_, hstint⟩ | ⟨_, hnil⟩
    · cases hstint
      intro e he
      cases he
    · cases hnil

theorem operate_of_foreign (op : Operation) (hw : record.workflowId ≠ s.graph.id) :
    s.operate op record world =
      refuse (.start record world) (.workflowMismatch s.graph.id record.workflowId) := by
  cases op with
  | run => unfold operate run; rw [begin?_eq_error hw]
  | submit => unfold operate submit; rw [begin?_eq_error hw]; rfl
  | trigger => unfold operate trigger; rw [begin?_eq_error hw]; rfl
  | runGlobal => unfold operate runGlobal; rw [begin?_eq_error hw]

theorem look_recounts {view : Variables → List Item → Pass → Pass × α}
    (hview : ∀ declared, s.graph.status? record.status = some declared →
      ∃ stay, s.Unfolds [] (.start record world) [] stay
        (view (s.bindings (.start record world)) declared.items (.start record world)).1) :
    ∃ stint, s.Recounts [] record world [stint] (s.look record world view) := by
  unfold look
  simp only
  split
  · exact ⟨_, refuse_recounts _⟩
  · next declared hchecked =>
    obtain ⟨⟨⟩, hbegin, hstatus⟩ := bind_eq_ok.mp hchecked
    have hw : record.workflowId = s.graph.id := by
      by_contra hne
      rw [begin?_eq_error hne] at hbegin
      cases hbegin
    obtain ⟨stay, hstay⟩ := hview declared (status?_of_statusOf hstatus)
    exact ⟨stay, hstay.recounts hw rfl rfl⟩

/-- **Effects belong to the status they were configured in.**  Whatever an operation writes into the
log, sends and leaves for later belongs to a stint of the record in a status, and comes from an item of
that status or, as long as the record has not been moved, of the global action that the operation runs.
The stints are those of the old status and of the statuses that the record has entered, in this order.
What a person is shown leaves failures behind only in the status that the record is in. -/
theorem effects_belong (s : Scene) (op : Operation) (record : Record) (world : World) :
    (∃ guests stints, s.Brings record world op guests ∧
      s.Recounts guests record world stints (s.operate op record world) ∧
      ∀ outcome, (s.operate op record world).answer = .ok outcome →
        outcome.jobs = (stints.flatMap Stint.effects).filterMap Effect.job? ∧
        outcome.failures = ((stints.flatMap Stint.effects).filterMap Effect.incident?).length) ∧
    (∃ stint, s.Recounts [] record world [stint] (s.surface record world)) ∧
    ∃ stint, s.Recounts [] record world [stint] (s.messages record world) := by
  refine ⟨?_, ?_, ?_⟩
  · by_cases hw : record.workflowId = s.graph.id
    · obtain ⟨guests, hbrings, q, ⟨done, stint, h⟩, hrecord, hworld, houtcome⟩ :=
        s.operate_yields record world op
      refine ⟨guests, done ++ [stint], hbrings, h.recounts hw hrecord hworld, fun outcome hok => ?_⟩
      obtain rfl := houtcome outcome hok
      have hgives := h.told.gives
      exact ⟨hgives.jobs, hgives.failures.trans (Nat.zero_add _)⟩
    · rw [operate_of_foreign op hw]
      exact ⟨[], _, .nothing, refuse_recounts _, fun _ hok => nomatch hok⟩
  · exact look_recounts fun _ hs => Unfolds.surfaceItems .start (onDuty_of_status? hs) _
  · exact look_recounts fun _ hs => Unfolds.shownMessages .start (onDuty_of_status? hs) _

/-- A request is announced and its submitter hired before it is open, and the clerks are told after. -/
theorem effects_belong_sample :
    ∃ first second, Sample.bureau.Recounts [] Sample.announced Sample.staff [first, second]
        (Sample.bureau.operate .run Sample.announced Sample.staff) ∧
      first.status = "draft" ∧ second.status = "open" ∧
      (first.effects ++ second.effects).filterMap Effect.job? = [Sample.hired] := by
  obtain ⟨⟨guests, stints, hbrings, hrecounts, houtcome⟩, -, -⟩ :=
    effects_belong Sample.bureau .run Sample.announced Sample.staff
  have hok : (Sample.bureau.operate .run Sample.announced Sample.staff).answer =
      .ok ⟨"open", .waiting, 1, 0, [Sample.hired]⟩ := by decide +kernel
  obtain ⟨hjobs, -⟩ := houtcome _ hok
  obtain ⟨later, hstatuses, hentered⟩ := hrecounts.entered
  have hopen : (Sample.bureau.operate .run Sample.announced Sample.staff).record.entered =
      ["open"] := by decide +kernel
  obtain rfl : ["open"] = later := hopen.symm.trans hentered
  obtain ⟨first, rest, rfl, hfirst, hrest⟩ := List.map_eq_cons_iff.mp hstatuses
  obtain ⟨second, rest, rfl, hsecond, hnone⟩ := List.map_eq_cons_iff.mp hrest
  obtain rfl := List.map_eq_nil_iff.mp hnone
  cases hbrings with
  | nothing => exact ⟨first, second, hrecounts, hfirst, hsecond, by simpa using hjobs.symm⟩
  | started hruns => cases hruns

end Scene
end Docket
