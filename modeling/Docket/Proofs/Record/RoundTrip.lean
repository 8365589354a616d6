import Docket.Proofs.Json.Decoding
import Docket.Record.Codec

/-! # What is written is read back

The parts of a record that are kept as JSON come back as they were: tables, marks, the roles of
functions and the lines of the history.  A line comes back if its time does. -/

namespace Docket

/-! ### The parts of a record -/

theorem Origin.decode_name (o : Origin) : Origin.decode (.str o.name) = some o := by
  cases o with
  | _ => decide

theorem Marks.decode_toJson (marks : Marks) : Marks.decode marks.toJson = some marks := by
  unfold Marks.decode Marks.toJson
  rw [Decoder.list_texts, Option.map_some, List.reverse_reverse]

theorem Buckets.decode_toJson (buckets : Buckets) :
    Buckets.decode buckets.toJson = some buckets :=
  Decoder.table_ofTable fun e _ => Decoder.nameSet_texts e.2

/-- The fields are those of a line of the history. -/
structure Entry.Listed (e : Entry) (fields : Json.Fields) : Prop where
  time : Json.Fields.get? fields "time" = some e.time.toJson
  status : Json.Fields.get? fields "status" = some (.text? e.status)
  actor : Json.Fields.get? fields "actor" = some (.text? e.actor)
  origin : Json.Fields.get? fields "origin" = some (.str e.origin.name)
  action : Json.Fields.get? fields "action_id" = some (.text? e.action)
  label : Json.Fields.get? fields "identifier" = some (.text? e.label)

theorem Entry.listed_toJson (e : Entry) : ∃ fields, e.toJson = .obj fields ∧ e.Listed fields := by
  refine ⟨_, rfl, ?_⟩
  constructor <;> simp [Json.Fields.ofList, Json.get?_insertField]

/-- The time of a line is read back from its text. -/
def Entry.Timed (e : Entry) : Prop := Instant.read? e.time.write = some e.time

instance (e : Entry) : Decidable e.Timed := inferInstanceAs (Decidable (_ = _))

theorem Instant.decode_toJson {t : Instant} (h : Instant.read? t.write = some t) :
    Decoder.instant t.toJson = some t := by
  simp only [Decoder.instant, toJson, Decoder.text, Option.bind_some]
  exact h

theorem Entry.decode_toJson {e : Entry} (h : e.Timed) : Entry.decode e.toJson = some e := by
  obtain ⟨fields, hfields, hlisted⟩ := e.listed_toJson
  unfold decode
  rw [hfields]
  simp only [Decoder.record, Decoder.Row.readAll, StateT.run_bind, StateT.run_pure,
    Decoder.field_named hlisted.time (Instant.decode_toJson h),
    Decoder.field?_named hlisted.status (Decoder.optional_text? e.status),
    Decoder.field?_named hlisted.actor (Decoder.optional_text? e.actor),
    Decoder.field_named hlisted.origin e.origin.decode_name,
    Decoder.field?_named hlisted.action (Decoder.optional_text? e.action),
    Decoder.field?_named hlisted.label (Decoder.optional_text? e.label), Option.bind_eq_bind,
    Option.bind_some, Option.pure_def, Decoder.Row.isDone, if_true]

end Docket
