import Docket.Proofs.Engine.Authority
import Docket.Proofs.Engine.Lineage
import Docket.Proofs.Record.RoundTrip
import Docket.Record.Store
import Mathlib.Logic.Relation

/-! # A table keeps what the memory keeps

A record that is kept in a table has its history apart, and of a history only the lines are appended
that are not stored yet.  As operations only continue the history of a record, nothing gets lost by
that: what is loaded is the version that was saved last.

* `Stored.Refines` relates a stored record to the memory, and `Stored.Refines.save` is the step.
* `Stored.refines_saves` is the statement about all sequences of versions. -/

namespace Docket

/-- A record becomes another by operations one after the other, by any engine and workflow, by
anybody and at any time, whatever they answer. -/
def Record.Becomes : Record → Record → Prop :=
  Relation.ReflTransGen fun r q =>
    ∃ (s : Scene) (op : Operation) (world : World), q = (s.operate op r world).record

theorem Record.Becomes.continues {r q : Record} (h : r.Becomes q) : q.Continues r := by
  induction h with
  | refl => exact .refl r
  | tail _ hstep ih =>
      obtain ⟨s, op, world, rfl⟩ := hstep
      exact (s.operate_continues op _ world).trans ih

/-- The memory after versions of records were saved one after the other. -/
def RecordStore.saveAll (store : RecordStore) (saves : List (Instant × Record)) : RecordStore :=
  saves.foldl (fun store save => store.insert save.2) store

namespace Stored

variable {stored : Stored} {store : RecordStore} {created now : Instant} {r q first : Record}
  {saves : List (Instant × Record)} {k : ℕ}

/-- The stored record after versions of it were saved one after the other. -/
def saveAll? (stored : Stored) (saves : List (Instant × Record)) : Option Stored :=
  saves.foldlM (fun stored save => stored.save? save.1 save.2) stored

theorem load_ofRecord (h : ∀ e ∈ r.history, e.Timed) : (ofRecord created r).load = .ok r := by
  have hhistory : (r.history.map Entry.toJson).mapM Entry.decode = some r.history :=
    mapM_map_eq_some fun e he => Entry.decode_toJson (h e he)
  simp only [load, ofRecord, Row.ofRecord, Json.table?_ofTable, hhistory, Marks.decode_toJson,
    Buckets.decode_toJson]

theorem save?_ofRecord (h : q.Continues r) :
    (ofRecord created r).save? now q = some (ofRecord created q) := by
  have hlines : r.history.map Entry.toJson <+: q.history.map Entry.toJson :=
    h.history.map Entry.toJson
  obtain ⟨lines, hunsaved⟩ : ∃ lines,
      unsaved? (r.history.map Entry.toJson).length (q.history.map Entry.toJson) = some lines :=
    ⟨_, if_pos hlines.length_le⟩
  have hall := append_of_unsaved? hunsaved hlines
  simp only [save?, ofRecord, hunsaved, Option.map_some, hall, Row.ofRecord, h.workflowId_eq]

/-- The table has what the memory has: the record, as it would be stored first. -/
structure Refines (stored : Stored) (created : Instant) (store : RecordStore) (r : Record) :
    Prop where
  memory : store.get? r.id = some r
  table : stored = ofRecord created r

/-- **Saving a version in the table succeeds, and the table has again what the memory has.** -/
theorem Refines.save (h : stored.Refines created store r) (hq : q.Continues r) (now : Instant) :
    ∃ next, stored.save? now q = some next ∧ next.Refines created (store.insert q) q := by
  rw [h.table]
  exact ⟨_, save?_ofRecord hq, by rw [Keyed.get?_insert, if_pos rfl], rfl⟩

/-- Saving versions one after the other never fails, and the table follows the memory. -/
theorem Refines.saveAll (h : stored.Refines created store first)
    (hchain : (first :: saves.map Prod.snd).IsChain Record.Becomes)
    (hk : (first :: saves.map Prod.snd)[k]? = some r) :
    r.Continues first ∧ ∃ next, stored.saveAll? (saves.take k) = some next ∧
      next.Refines created (store.saveAll (saves.take k)) r := by
  induction k generalizing first saves stored store with
  | zero =>
      cases hk
      exact ⟨.refl r, stored, rfl, h⟩
  | succ k ih =>
      cases saves with
      | nil => cases hk
      | cons save rest =>
          rw [List.map_cons, List.isChain_cons_cons] at hchain
          have hnext := hchain.1.continues
          obtain ⟨next, hsave, hrefines⟩ := h.save hnext save.1
          obtain ⟨hlast, final, hrest, hfinal⟩ := ih hrefines hchain.2 hk
          refine ⟨hlast.trans hnext, final, ?_, hfinal⟩
          rw [List.take_succ_cons, saveAll?, List.foldlM_cons, hsave]
          exact hrest

/-- **A table keeps what the memory keeps.**  Store a record, and then save versions of it one
after the other, each of which the one before became by operations.  No save fails.  After each of
them the memory has the version that was saved last, under the identifier of the record; the row
has still the workflow and the time of the beginning; and if the times in its history are read
back, that version is what is loaded. -/
theorem refines_saves (hchain : (first :: saves.map Prod.snd).IsChain Record.Becomes)
    (hk : (first :: saves.map Prod.snd)[k]? = some r) :
    ∃ stored, (ofRecord created first).saveAll? (saves.take k) = some stored ∧
      (RecordStore.saveAll (Keyed.empty.insert first) (saves.take k)).get? first.id = some r ∧
      stored.row.workflowId = first.workflowId ∧ stored.row.created = created ∧
      stored.history = r.history.map Entry.toJson ∧
      ((∀ e ∈ r.history, e.Timed) → stored.load = .ok r) := by
  have hstart : (ofRecord created first).Refines created (Keyed.empty.insert first) first :=
    ⟨by rw [Keyed.get?_insert, if_pos rfl], rfl⟩
  obtain ⟨hr, stored, hsaved, hmemory, rfl⟩ := hstart.saveAll hchain hk
  exact ⟨_, hsaved, hr.id_eq ▸ hmemory, hr.workflowId_eq, rfl, rfl, load_ofRecord⟩

end Stored

namespace Sample

/-- The request after it was sent out for advice and came right back. -/
def advised : Record := ((scene "ada").operate (.submit "ask" ∅) record world).record

/-- The request after it was withdrawn. -/
def withdrawn : Record := ((scene "ada").operate (.trigger "withdrawn") advised world).record

end Sample

/-- The request is stored, saved when it is back, and saved when it is withdrawn. -/
theorem Stored.refines_saves_sample :
    Sample.withdrawn.history.map Entry.action = [some "ask", some "return", some "drop"] ∧
    ∃ stored, (Stored.ofRecord Sample.now Sample.record).saveAll?
        [(Sample.now, Sample.advised), (Sample.now, Sample.withdrawn)] = some stored ∧
      stored.load = .ok Sample.withdrawn := by
  have hchain : (Sample.record :: [(Sample.now, Sample.advised),
      (Sample.now, Sample.withdrawn)].map Prod.snd).IsChain Record.Becomes :=
    .cons_cons (.single ⟨_, _, _, rfl⟩) (.cons_cons (.single ⟨_, _, _, rfl⟩) (.singleton _))
  have htimed : ∀ e ∈ Sample.withdrawn.history, e.Timed := by decide +kernel
  obtain ⟨stored, hsaved, -, -, -, -, hload⟩ := Stored.refines_saves (k := 2) hchain rfl
  exact ⟨by decide +kernel, stored, hsaved, hload htimed⟩

end Docket
