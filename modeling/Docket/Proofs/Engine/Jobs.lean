import Docket.Proofs.Engine.Effects
import Docket.Proofs.Engine.Performed

/-! # After-jobs name their record

Every job that an operation leaves for later says about which record it is, and that is the record
of the operation.

* `Scene.Enduring` packs what has to be shown of a property for every operation to keep it, effect
  by effect, where the property may speak of the jobs and every item counts as performed.
* `Pass.Names` is the property.  `Emits.names` shows it of what an item leaves behind, and
  `Scene.operate_jobs` is the statement about operations. -/

namespace Docket

open Expression (Variables)

namespace Scene

/-! ### What every single effect keeps -/

/-- What lasts whatever is done and looks at all of a pass: what an item does by itself keeps it,
and so do lines in the failure log, arrivals, forms that are filled in, notes about edits and the
end of the pass. -/
structure Enduring (s : Scene) (P : Pass → Prop) : Prop where
  logged : ∀ {p q : Pass}, p.Logged q → P p → P q
  perform : ∀ {p : Pass} (vars : Variables) (item : Item), P p → P (s.perform vars item p).1
  ending : ∀ {p : Pass} (e : Option PassState), P p → P { p with ending := e }
  arrive : ∀ {p : Pass} (item : Item) (origin : Origin) (next : Place),
    P p → P (s.arrive item p origin next)
  filledIn : ∀ {p : Pass} (form : Table Json), P p → P (p.filledIn form)
  noteEdit : ∀ {p : Pass} (item : Item), P p → P (s.noteEdit item p)

/-- What every effect keeps is carried along, whatever the items are that are performed. -/
theorem Enduring.carries {s : Scene} {P : Pass → Prop} {performed : Variables → Item → Pass → Prop}
    (h : s.Enduring P) : s.Carries performed P where
  logged := h.logged
  perform _ hp := h.perform _ _ hp
  ending := h.ending
  arrive := h.arrive
  filledIn := h.filledIn
  noteEdit := h.noteEdit

end Scene

/-! ### The jobs of a pass -/

/-- The pass works on a record, and every job that it has left so far names that record. -/
structure Pass.Names (id : Uuid) (p : Pass) : Prop where
  record_id : p.record.id = id
  jobs : ∀ job ∈ p.jobs, job.site.recordId = some id

namespace Pass.Names

variable {id : Uuid} {p q : Pass} {job : AfterJob}

theorem logged (h : p.Names id) (hl : p.Logged q) : q.Names id := by
  obtain ⟨_, _, rfl⟩ := hl
  exact ⟨h.record_id, h.jobs⟩

theorem leave {s : Scene} {item : Item} (h : p.Names id) (hjob : job.site = s.site p item) :
    Pass.Names id { p with jobs := p.jobs ++ [job] } := by
  refine ⟨h.record_id, fun j hj => ?_⟩
  rcases List.mem_append.mp hj with hj | hj
  · exact h.jobs j hj
  · rw [List.mem_singleton.mp hj, hjob, ← h.record_id]
    rfl

end Pass.Names

namespace Scene

variable {s : Scene} {vars : Variables} {item : Item} {id : Uuid} {p : Pass}

theorem failAll_logged (s : Scene) (item : Item) (misses : List Miss) (p : Pass) :
    p.Logged (s.failAll item misses p) := by
  unfold failAll
  induction misses generalizing p with
  | nil => exact .refl p
  | cons miss rest ih => exact Pass.Logged.trans ⟨_, _, rfl⟩ (ih _)

theorem dispatchRoles_logged (s : Scene) (vars : Variables) (item : Item) (dispatch : Dispatch)
    (p : Pass) : p.Logged (s.dispatchRoles vars item dispatch p).2 := by
  unfold dispatchRoles
  split
  · unfold computedRoles
    split
    · exact ⟨_, _, rfl⟩
    · split
      · exact .refl p
      · exact s.failAll_logged item _ p
  · unfold specifiedRoles
    simp only
    split
    · exact s.failAll_logged item _ p
    · exact s.failAll_logged item _ p
  · exact .refl p

/-- A dispatch writes down what it misses and changes the functions of the record, nothing else. -/
theorem performDispatch_eq (s : Scene) (vars : Variables) (item : Item) (dispatch : Dispatch)
    (p : Pass) : ∃ q buckets, p.Logged q ∧
      s.performDispatch vars item dispatch p = { q with record := { q.record with buckets } } := by
  have hlogged := s.dispatchRoles_logged vars item dispatch p
  unfold performDispatch
  simp only
  split
  · exact ⟨_, _, hlogged, rfl⟩
  · exact ⟨_, _, hlogged, rfl⟩

theorem recipients_logged (s : Scene) (vars : Variables) (item : Item) (n : Notification)
    (p : Pass) : p.Logged (s.recipients vars item n p).2 := by
  unfold recipients
  split
  · split
    · exact .refl p
    · exact ⟨_, _, rfl⟩
  · exact s.failAll_logged item _ p

/-- Of what an item leaves behind only the jobs matter here, and they are about its site. -/
theorem Emits.names {es : List Effect} {q : Pass} (he : s.Emits item p es q) (h : p.Names id) :
    q.Names id := by
  induction he with
  | silent hs => exact ⟨hs.record ▸ h.record_id, hs.jobs ▸ h.jobs⟩
  | fail => exact h.logged ⟨_, _, rfl⟩
  | send => exact ⟨h.record_id, h.jobs⟩
  | leave p hsite => exact h.leave hsite
  | trans _ _ ih ih' => exact ih' (ih h)

/-- **An item leaves jobs only about the record of the pass.** -/
theorem perform_names (vars : Variables) (item : Item) (h : p.Names id) :
    (s.perform vars item p).1.Names id := by
  obtain ⟨_, he⟩ := s.perform_acts item p vars
  exact he.names h

theorem enduring_names (s : Scene) (id : Uuid) : s.Enduring fun p => p.Names id where
  logged hl h := h.logged hl
  perform vars item h := perform_names vars item h
  ending _ h := ⟨h.record_id, h.jobs⟩
  arrive _ _ _ h := ⟨h.record_id, h.jobs⟩
  filledIn _ h := ⟨h.record_id, h.jobs⟩
  noteEdit _ h := ⟨h.record_id, h.jobs⟩

/-- **The jobs that an operation leaves for later name its record.** -/
theorem operate_jobs {op : Operation} {record : Record} {world : World} {outcome : Outcome}
    (hok : (s.operate op record world).answer = .ok outcome) :
    ∀ job ∈ outcome.jobs, job.site.recordId = some record.id := by
  have hstart : (Pass.start record world).Names record.id := ⟨rfl, fun _ hj => nomatch hj⟩
  have hcarries : s.Carries (s.Performs record world op) fun p => p.Names record.id :=
    (s.enduring_names record.id).carries
  obtain ⟨q, hq, _, hjobs⟩ := hcarries.operate hstart
  obtain rfl := hjobs outcome hok
  exact hq.jobs

end Scene
end Docket
