import Docket.Proofs.Engine.Authority
import Docket.Proofs.Engine.Fixpoint
import Docket.Proofs.Engine.Lineage
import Docket.Proofs.Time

/-! # What a timeout counts

A jump with a timeout reads the instant of the last update of its record.  A move writes that
instant, and so does an edit that leaves the record where it is.  So the timeout counts the seconds
since something happened to the record last, and they are those since the record came into its
status exactly as long as nobody has edited it there.

* `Record.Clocked` says of a record that it was updated last when something happened to it last.
  `Graph.clocked_after` says so of every record that calls have worked on, one after the other, if
  their clocks do not go back.
* `Scene.run_fires` and `Scene.due_of_fired` are the two directions for one pass, and
  `Graph.timeout_counts` is the statement about a record from its creation on. -/

namespace Docket

open Expression (Variables)

/-! ### The clock of a record -/

namespace Record

variable {r r' : Record} {Q : Instant → Prop} {born now now' : Instant}

/-- When something happened last to a record that was created at `born`. -/
def touchedAt (r : Record) (born : Instant) : Instant := (r.history.map Entry.time).getLastD born

/-- When a record that was created at `born` came into its status. -/
def enteredAt (r : Record) (born : Instant) : Instant :=
  ((r.history.filter fun e => e.status.isSome).map Entry.time).getLastD born

/-- The instants of a record that was created at `born`. -/
def times (r : Record) (born : Instant) : List Instant := born :: r.history.map Entry.time

/-- A record has been updated last when something happened to it last, no instant in its history is
after that, and each of them has the property `Q` and is not after `now`. -/
structure Clocked (Q : Instant → Prop) (born now : Instant) (r : Record) : Prop where
  lastUpdate_eq : r.lastUpdate = r.touchedAt born
  latest : ∀ t ∈ r.times born, t ≤ r.lastUpdate
  within : ∀ t ∈ r.times born, Q t ∧ t ≤ now

/-- A record whose last line came into a status has not been touched since it came into its
status. -/
theorem touchedAt_eq (h : ∀ e, r.history.getLast? = some e → e.status ≠ none) :
    r.touchedAt born = r.enteredAt born := by
  unfold touchedAt enteredAt
  cases hlast : r.history.getLast? with
  | none => rw [List.getLast?_eq_none_iff.mp hlast]; rfl
  | some e =>
      obtain ⟨before, hbefore⟩ := List.getLast?_eq_some_iff.mp hlast
      have hstatus : e.status.isSome = true := Option.isSome_iff_ne_none.mpr (h e hlast)
      rw [hbefore, List.filter_append]
      simp [hstatus]

theorem touchedAt_mem (r : Record) (born : Instant) : r.touchedAt born ∈ r.times born :=
  List.getLastD_mem_cons

theorem enteredAt_mem (r : Record) (born : Instant) : r.enteredAt born ∈ r.times born := by
  have hmem : r.enteredAt born ∈
      born :: (r.history.filter fun e => e.status.isSome).map Entry.time :=
    List.getLastD_mem_cons
  exact List.cons_subset_cons _ (List.map_subset _ (List.filter_subset_self _)) hmem

namespace Clocked

theorem later (h : r.Clocked Q born now) (hle : now ≤ now') : r.Clocked Q born now' where
  lastUpdate_eq := h.lastUpdate_eq
  latest := h.latest
  within t ht := ⟨(h.within t ht).1, Instant.le_trans (h.within t ht).2 hle⟩

theorem line {e : Entry} (h : r.Clocked Q born now) (hq : Q now)
    (hhistory : r'.history = r.history ++ [e]) (htime : e.time = now) (hupdate : r'.lastUpdate = now) :
    r'.Clocked Q born now := by
  have hwithin : ∀ t ∈ r'.times born, Q t ∧ t ≤ now := by
    intro t ht
    unfold times at ht
    rw [hhistory, List.map_append, List.map_singleton, htime, ← List.cons_append, List.mem_append,
      List.mem_singleton] at ht
    rcases ht with ht | rfl
    · exact h.within t ht
    · exact ⟨hq, Instant.le_refl _⟩
  refine ⟨?_, fun t ht => ?_, hwithin⟩
  · unfold touchedAt
    rw [hupdate, hhistory, List.map_append, List.map_singleton, htime, List.getLastD_concat]
  · rw [hupdate]
    exact (hwithin t ht).2

end Clocked
end Record

variable {Q : Instant → Prop} {born : Instant}

theorem Scene.lasting_clocked {s : Scene} (hq : Q s.moment.now) :
    s.Lasting fun p => p.record.Clocked Q born s.moment.now where
  sameCourse hb hp := by
    rw [hb.record]
    exact ⟨hp.lastUpdate_eq, hp.latest, hp.within⟩
  ending _ hp := hp
  arrive _ _ _ _ hp := hp.line hq rfl rfl rfl
  filledIn _ hp := ⟨hp.lastUpdate_eq, hp.latest, hp.within⟩
  noteEdit _ hp := hp.line hq rfl rfl rfl

/-- The instants of calls on a record that was created at `born`. -/
def Call.clock (born : Instant) (calls : List Call) : List Instant :=
  born :: calls.map fun c => c.moment.now

theorem Call.clock_concat (born : Instant) (calls : List Call) (c : Call) :
    Call.clock born (calls ++ [c]) = Call.clock born calls ++ [c.moment.now] := by
  unfold Call.clock
  rw [List.map_append, List.cons_append, List.map_singleton]

/-- **A record keeps its clock under all calls**, if theirs does not go back. -/
theorem Graph.clocked_after (g : Graph) (id : Uuid) (data : Table Json) (submitter : Option String)
    {calls : List Call} {now : Instant}
    (hsorted : (Call.clock born calls).Pairwise (· ≤ ·))
    (hwithin : ∀ t ∈ Call.clock born calls, Q t ∧ t ≤ now) :
    (g.after (Record.create g.workflow id born data submitter) calls).Clocked Q born now := by
  induction calls using List.reverseRecOn generalizing now with
  | nil =>
      refine ⟨rfl, fun t ht => ?_, hwithin⟩
      rw [List.mem_singleton.mp ht]
      exact Instant.le_refl born
  | append_singleton calls c ih =>
      rw [Call.clock_concat] at hsorted hwithin
      obtain ⟨hbefore, -, hlast⟩ := List.pairwise_append.mp hsorted
      have hnow : Q c.moment.now ∧ c.moment.now ≤ now := hwithin _ (by simp)
      have hbound : ∀ t ∈ Call.clock born calls, Q t ∧ t ≤ c.moment.now := fun t ht =>
        ⟨(hwithin t (List.mem_append_left _ ht)).1, hlast t ht _ (List.mem_singleton_self _)⟩
      rw [after_concat]
      refine Record.Clocked.later ?_ hnow.2
      exact Scene.operate_lasts _ (Scene.lasting_clocked (s := c.scene g) hnow.1) c.op c.world
        (ih hbefore hbound)

/-! ### One pass -/

/-- The first item of a status is a jump onward that waits for nothing but a timeout. -/
structure Status.Expires (status : Status) (item : Item) (jump : Jump) (seconds : Int) : Prop where
  first : status.items.head? = some item
  unconditional : item.condition = none
  action_eq : item.action = .jump jump
  mode_eq : jump.mode = .timeout seconds
  onward : jump.target ≠ previous

theorem Leads.status_eq {target : String} {mark : Bool} {a b : Place} (h : Leads target mark a b)
    (hne : target ≠ previous) : b.status = target := by
  cases h with
  | onward => rfl
  | back _ _ _ hback => exact absurd hback hne

namespace Scene

variable {s : Scene} {record : Record} {world : World} {status : Status} {item : Item} {jump : Jump}
  {seconds : Int} {p : Pass}

theorem jumpMove_of_timeout (hmode : jump.mode = .timeout seconds) :
    s.jumpMove p jump = if s.moment.now.secondsSince p.record.lastUpdate < seconds then none
      else some ⟨jump.target, jump.mark, .timeout⟩ := by
  unfold jumpMove
  rw [hmode]

/-- The line of a jump that fires because its time has come. -/
def timeoutLine (s : Scene) (item : Item) (jump : Jump) : Entry :=
  s.entry item (some jump.target) .timeout

theorem run_eq (hw : record.workflowId = s.graph.id) :
    s.run record world = finish (s.goOn (Pass.start record world)) := by
  unfold run
  simp only [begin?_eq_ok hw]

/-- A visit begins and ends with the first item of its status, if that is a jump whose time has
come. -/
theorem visit_fires (hlt : p.hops < s.engine.settings.maxHops) (he : status.Expires item jump seconds)
    (hdue : seconds ≤ s.moment.now.secondsSince p.record.lastUpdate) (vars : Variables) :
    ∃ next : Place, next.status = jump.target ∧
      s.visit vars status.items p = (s.arrive item p .timeout next, .moved) := by
  obtain ⟨rest, hitems⟩ := List.head?_eq_some_iff.mp he.first
  have hholds : s.holds vars item = true := by
    unfold holds
    rw [he.unconditional]
  have hint : item.isInteractive = false := by simp [Item.isInteractive, he.action_eq]
  have hperform : s.perform vars item p = (p, some ⟨jump.target, jump.mark, .timeout⟩) := by
    unfold perform
    rw [he.action_eq]
    simp only
    rw [jumpMove_of_timeout he.mode_eq, if_neg (Int.not_lt.mpr hdue)]
  rcases s.move_cases item p ⟨jump.target, jump.mark, .timeout⟩ with
    ⟨hle, _⟩ | ⟨_, hback, _⟩ | ⟨_, next, hleads, hmove⟩
  · omega
  · exact absurd hback he.onward
  · refine ⟨next, hleads.status_eq he.onward, ?_⟩
    rw [hitems]
    unfold visit
    simp only [s.noteCondition_of_holds _ item _ hholds, hholds, hint, hperform, hmove]
    rfl

/-- **A jump fires when its time has come.** -/
theorem run_fires (hw : record.workflowId = s.graph.id) (hmax : 1 ≤ s.engine.settings.maxHops)
    (hs : s.graph.status? record.status = some status) (he : status.Expires item jump seconds)
    (hdue : seconds ≤ s.moment.now.secondsSince record.lastUpdate) :
    (s.run record world).record.history[record.history.length]? = some (s.timeoutLine item jump) := by
  obtain ⟨next, hnext, hvisit⟩ :=
    visit_fires (p := Pass.start record world) hmax he hdue (s.bindings (Pass.start record world))
  obtain ⟨left, hleft⟩ := Nat.exists_eq_add_of_le' hmax
  have hmoves : s.engine.settings.maxHops - (Pass.start record world).hops = left + 1 := hleft
  have hgo : s.goOn (Pass.start record world) =
      s.drive left (s.arrive item (Pass.start record world) .timeout next) := by
    unfold goOn
    rw [if_neg (start_ending record world), hmoves, drive]
    rw [show (Pass.start record world).record = record from rfl, hs]
    simp only [hvisit]
  -- the pass goes on from there, and only adds to the history
  obtain ⟨added, hadded⟩ := ((s.lasting_continues _).kept.drive left
    (.refl (s.arrive item (Pass.start record world) .timeout next).record)).history
  rw [run_eq hw]
  show (s.goOn (Pass.start record world)).1.record.history[record.history.length]? = _
  rw [hgo, ← hadded]
  show ((record.history ++ [s.entry item (some next.status) .timeout]) ++ added)[_]? = _
  rw [List.append_assoc, List.getElem?_append_right (Nat.le_refl _), Nat.sub_self, hnext]
  rfl

/-- What a pass keeps: the record was updated last when it was before or now, and if the pass has
added a line of a jump with a timeout, then its time had come before the pass. -/
structure Due (s : Scene) (record : Record) (item : Item) (seconds : Int) (p : Pass) : Prop where
  update : p.record.lastUpdate = record.lastUpdate ∨ p.record.lastUpdate = s.moment.now
  added : ∃ added, p.record.history = record.history ++ added ∧
    ∀ e ∈ added, e.action = some item.id → seconds ≤ s.moment.now.secondsSince record.lastUpdate

/-- A jump that fires now is due since before, also where the pass itself has touched the record. -/
theorem kept_due (hitem : item ∈ s.graph.workflow.items) (ha : item.action = .jump jump)
    (hmode : jump.mode = .timeout seconds)
    (hnonneg : 0 ≤ s.moment.now.secondsSince record.lastUpdate) :
    s.Kept (s.Due record item seconds) where
  sameCourse hb hp := by
    obtain ⟨hupdate, added, hadded, hdue⟩ := hp
    refine ⟨?_, added, hb.history.trans hadded, hdue⟩
    rw [hb.record]
    exact hupdate
  ending _ hp := ⟨hp.update, hp.added⟩
  arrive := by
    intro p status found vars m next hs hfound hperf _ _ hp
    obtain ⟨added, hadded, hdue⟩ := hp.added
    refine ⟨.inr rfl, added ++ [s.entry found (some next.status) m.origin], ?_, ?_⟩
    · show p.record.history ++ [_] = _
      rw [hadded, List.append_assoc]
    · intro e he hid
      rcases List.mem_append.mp he with he | he
      · exact hdue e he hid
      · rw [List.mem_singleton.mp he] at hid
        obtain rfl := Graph.eq_of_item_id (Graph.item_mem_of_status? hs hfound) hitem
          (Option.some.inj hid)
        unfold perform at hperf
        rw [ha] at hperf
        simp only [Prod.mk.injEq, true_and] at hperf
        rw [jumpMove_of_timeout hmode] at hperf
        split at hperf
        · cases hperf
        · next hlate =>
          rcases hp.update with hupdate | hupdate
          · rw [hupdate] at hlate
            exact Int.not_lt.mp hlate
          · rw [hupdate, Instant.secondsSince_self] at hlate
            omega

/-- **A jump that has fired was due.** -/
theorem due_of_fired (hw : record.workflowId = s.graph.id)
    (hs : s.graph.status? record.status = some status) (he : status.Expires item jump seconds)
    (hnonneg : 0 ≤ s.moment.now.secondsSince record.lastUpdate) {k : ℕ} {e : Entry}
    (hk : record.history.length ≤ k) (hline : (s.run record world).record.history[k]? = some e)
    (hid : e.action = some item.id) : seconds ≤ s.moment.now.secondsSince record.lastUpdate := by
  have hitem : item ∈ s.graph.workflow.items :=
    Graph.item_mem_of_status? hs (List.mem_of_mem_head? he.first)
  have hstart : s.Due record item seconds (Pass.start record world) :=
    ⟨.inl rfl, [], (List.append_nil _).symm, fun e he => absurd he List.not_mem_nil⟩
  obtain ⟨added, hadded, hdue⟩ :=
    ((kept_due hitem he.action_eq he.mode_eq hnonneg).goOn hstart).added
  rw [run_eq hw] at hline
  have hline : (s.goOn (Pass.start record world)).1.record.history[k]? = some e := hline
  rw [hadded, List.getElem?_append_right hk] at hline
  exact hdue e (List.mem_of_getElem? hline) hid

end Scene

/-! ### From its creation on -/

/-- A call adds a line that says that the time of a jump had come. -/
def Call.Fires (c : Call) (g : Graph) (record : Record) (item : Item) (jump : Jump) : Prop :=
  ∃ k e, c.Adds g record k e ∧ e.action = some item.id ∧ e.origin = .timeout ∧
    e.status = some jump.target

namespace Graph

variable {g : Graph} {record : Record} {c : Call} {status : Status} {item : Item} {jump : Jump}
  {seconds : Int}

theorem after_workflowId (g : Graph) (record : Record) (calls : List Call) :
    (g.after record calls).workflowId = record.workflowId := by
  induction calls using List.reverseRecOn with
  | nil => rfl
  | append_singleton calls c ih =>
      rw [after_concat]
      exact ((c.scene g).operate_continues c.op _ c.world).workflowId_eq.trans ih

theorem fires_iff (hrun : c.op = .run) (hw : record.workflowId = g.id)
    (hmax : 1 ≤ c.engine.settings.maxHops) (hs : g.status? record.status = some status)
    (he : status.Expires item jump seconds)
    (hnonneg : 0 ≤ c.moment.now.secondsSince record.lastUpdate) :
    c.Fires g record item jump ↔ seconds ≤ c.moment.now.secondsSince record.lastUpdate := by
  have hreply : c.reply g record = (c.scene g).run record c.world := by
    unfold Call.reply
    rw [hrun]
    rfl
  constructor
  · rintro ⟨k, e, ⟨hk, hline⟩, hid, _, _⟩
    rw [hreply] at hline
    exact Scene.due_of_fired (s := c.scene g) hw hs he hnonneg hk hline hid
  · intro hdue
    refine ⟨record.history.length, (c.scene g).timeoutLine item jump, ⟨Nat.le_refl _, ?_⟩,
      rfl, rfl, rfl⟩
    rw [hreply]
    exact Scene.run_fires (s := c.scene g) hw hmax hs he hdue

/-- **A timeout counts the seconds since the last update.**  Take a record from its creation on, with
any calls one after the other whose clocks do not go back, and then a run of at least one move on it
while the first item of its status is a jump with a timeout.  The jump fires in that run exactly if
at least that many whole seconds have passed since something happened to the record last.  If
nobody has edited it since it came into its status, they are those since it came into its status.
Else the jump is late, but it is never early, leap seconds aside. -/
theorem timeout_counts (g : Graph) (id : Uuid) (born : Instant) (data : Table Json)
    (submitter : Option String) (calls : List Call) (hrun : c.op = .run)
    (hsorted : (Call.clock born (calls ++ [c])).Pairwise (· ≤ ·))
    (hproper : ∀ t ∈ Call.clock born (calls ++ [c]), t.Proper)
    (hmax : 1 ≤ c.engine.settings.maxHops)
    (hs : g.status? (g.after (Record.create g.workflow id born data submitter) calls).status =
      some status)
    (he : status.Expires item jump seconds) :
    let record := g.after (Record.create g.workflow id born data submitter) calls
    (c.Fires g record item jump ↔ seconds ≤ c.moment.now.secondsSince (record.touchedAt born)) ∧
    ((∀ e, record.history.getLast? = some e → e.status ≠ none) →
      (c.Fires g record item jump ↔
        seconds ≤ c.moment.now.secondsSince (record.enteredAt born))) ∧
    ((∀ t ∈ Call.clock born (calls ++ [c]), t.Ordinary) → c.Fires g record item jump →
      seconds ≤ c.moment.now.secondsSince (record.enteredAt born)) := by
  intro record
  have hw : record.workflowId = g.id := g.after_workflowId _ calls
  -- the instants of the record are among those of the calls, and none is after the run
  have hclocked : record.Clocked (· ∈ Call.clock born (calls ++ [c])) born c.moment.now := by
    rw [Call.clock_concat] at hsorted ⊢
    obtain ⟨hbefore, -, hlast⟩ := List.pairwise_append.mp hsorted
    exact g.clocked_after id data submitter hbefore fun t ht =>
      ⟨List.mem_append_left _ ht, hlast t ht _ (List.mem_singleton_self _)⟩
  have hnow : c.moment.now ∈ Call.clock born (calls ++ [c]) := by
    rw [Call.clock_concat]
    exact List.mem_append_right _ (List.mem_singleton_self _)
  obtain ⟨htouched, hle⟩ := hclocked.within _ (record.touchedAt_mem born)
  have hnonneg : 0 ≤ c.moment.now.secondsSince record.lastUpdate := by
    rw [hclocked.lastUpdate_eq]
    exact Instant.secondsSince_nonneg hle (hproper _ htouched) (hproper _ hnow)
  have hfires := fires_iff hrun hw hmax hs he hnonneg
  rw [hclocked.lastUpdate_eq] at hfires
  refine ⟨hfires, fun hlast => ?_, fun hordinary hfired => ?_⟩
  · rw [← Record.touchedAt_eq hlast]
    exact hfires
  · have hentered := (hclocked.within _ (record.enteredAt_mem born)).1
    have horder : record.enteredAt born ≤ record.touchedAt born := by
      rw [← hclocked.lastUpdate_eq]
      exact hclocked.latest _ (record.enteredAt_mem born)
    have hseconds := Instant.secondsSince_anti horder (hordinary _ hentered) (hordinary _ htouched)
      (hordinary _ hnow)
    have hdue := hfires.mp hfired
    omega

end Graph

/-! ### A request that expires -/

namespace Sample

def expiry : Jump := ⟨"closed", false, .timeout 3600⟩

def stale : Item := item "stale" (.jump expiry)

/-- A status that is left after an hour, and in which a note may be taken. -/
def draft : Status := ⟨"draft", "Draft", [stale, fill], false⟩

def expiring : Workflow :=
  ⟨"request", "Request", "draft", [draft, ⟨"closed", "Closed", [], true⟩], ∅, []⟩

theorem expiring_check : expiring.check .default = .ok () := by decide +kernel

def expiringGraph : Graph := ⟨.default, expiring, expiring_check⟩

theorem draft_expires : draft.Expires stale expiry 3600 := ⟨rfl, rfl, rfl, rfl, by decide⟩

/-- A note that is taken after half an hour. -/
def noted : Call :=
  ⟨.ofSettings .default .accepting, ⟨some "ada", .interactive, ⟨now.day, 1800, 0⟩, ∅⟩,
    .submit "fill" (.ofList [("note", .str "seen")]), world⟩

/-- A run after an hour. -/
def hourly : Call :=
  ⟨.ofSettings .default .accepting, ⟨none, .automatic, ⟨now.day, 3600, 0⟩, ∅⟩, .run, world⟩

end Sample

/-- Where no note is taken, the request is closed after an hour. -/
theorem Graph.timeout_counts_sample :
    3600 ≤ Sample.hourly.moment.now.secondsSince Sample.now ∧
    Sample.hourly.Fires Sample.expiringGraph
      (Record.create Sample.expiring .nil Sample.now ∅ (some "ada")) Sample.stale Sample.expiry := by
  have hsorted : (Call.clock Sample.now [Sample.hourly]).Pairwise (· ≤ ·) := by decide +kernel
  have hproper : ∀ t ∈ Call.clock Sample.now [Sample.hourly], t.Proper := by
    intro t ht
    rcases List.mem_pair.mp ht with rfl | rfl
    · exact ⟨by decide, by decide⟩
    · exact ⟨by decide, by decide⟩
  have hs : Sample.expiringGraph.status? "draft" = some Sample.draft := by decide +kernel
  have hdue : 3600 ≤ Sample.hourly.moment.now.secondsSince Sample.now := by decide +kernel
  obtain ⟨hfires, _, _⟩ := timeout_counts Sample.expiringGraph .nil Sample.now ∅ (some "ada") []
    (c := Sample.hourly) rfl hsorted hproper (by decide) hs Sample.draft_expires
  exact ⟨hdue, hfires.mpr hdue⟩

/-- **An edit restarts the count.**  The note leaves the request in its status, and when the request
has been there for an hour, it is not closed. -/
theorem Graph.timeout_restarted :
    ∃ record, record = Sample.expiringGraph.after
        (Record.create Sample.expiring .nil Sample.now ∅ (some "ada")) [Sample.noted] ∧
      (Sample.noted.reply Sample.expiringGraph
        (Record.create Sample.expiring .nil Sample.now ∅ (some "ada"))).answer =
          .ok ⟨"draft", .suspended "fill", 0, 0, []⟩ ∧
      Sample.expiringGraph.status? record.status = some Sample.draft ∧
      3600 ≤ Sample.hourly.moment.now.secondsSince (record.enteredAt Sample.now) ∧
      ¬ Sample.hourly.Fires Sample.expiringGraph record Sample.stale Sample.expiry := by
  refine ⟨_, rfl, by decide +kernel, by decide +kernel, by decide +kernel, ?_⟩
  rintro ⟨k, e, ⟨hk, hline⟩, _⟩
  have hnone : (Sample.hourly.reply Sample.expiringGraph (Sample.expiringGraph.after
      (Record.create Sample.expiring .nil Sample.now ∅ (some "ada"))
      [Sample.noted])).record.history.length ≤ k :=
    Nat.le_trans (by decide +kernel) hk
  rw [List.getElem?_eq_none hnone] at hline
  cases hline

end Docket
