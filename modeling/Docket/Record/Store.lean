import Docket.Record.Codec

/-!
# Keeping records

A `RecordStore` keeps the last version of every record.

In a table a record takes a `Row`, with its data, marks and roles as JSON, and its history is kept
apart, line by line.  A `Stored` record is both together.  Saving replaces the row, all but the
workflow and the time of creation, and appends the lines of the history that are not stored yet, so
a stored line is never written again.  A history that has become shorter is not saved.
-/

namespace Docket

open Decoder

/-- The last versions of records. -/
abbrev RecordStore := Keyed Record.id

/-- A record as a row of a table, without its history. -/
structure Row where
  id : Uuid
  workflowId : String
  status : String
  data : Json
  submitter : Option String
  marks : Json
  buckets : Json
  lastUpdate : Instant
  created : Instant
  deriving DecidableEq, Repr

/-- Why a stored record cannot be read. -/
inductive Corruption where
  | dataNotObject (id : Uuid)
  /-- A column or a line of the history has another form. -/
  | unreadable (id : Uuid)
  deriving DecidableEq, Repr

def Corruption.message : Corruption → String
  | .dataNotObject id => "stored record " ++ id.write ++ " is corrupt: data is not an object"
  | .unreadable id => "stored record " ++ id.write ++ " is corrupt"

namespace Row

/-- The row of a record that is created now. -/
def ofRecord (now : Instant) (r : Record) : Row :=
  { id := r.id, workflowId := r.workflowId, status := r.status, data := .ofTable r.data,
    submitter := r.submitter, marks := r.marks.toJson, buckets := r.buckets.toJson,
    lastUpdate := r.lastUpdate, created := now }

def decode : Decoder Row := record do
  return {
    id := ← field "id" uuid
    workflowId := ← field "workflow_id" text
    status := ← field "status_id" text
    data := ← field "data" any
    submitter := ← field? "submitter_id" text
    marks := ← field "marker_stack" any
    buckets := ← field "workflow_roles" any
    lastUpdate := ← field "last_update" instant
    created := ← field "created_at" instant }

def toJson (row : Row) : Json :=
  Json.object [("id", .str row.id.write), ("workflow_id", .str row.workflowId),
    ("status_id", .str row.status), ("data", row.data), ("submitter_id", .text? row.submitter),
    ("marker_stack", row.marks), ("workflow_roles", row.buckets),
    ("last_update", row.lastUpdate.toJson), ("created_at", row.created.toJson)]

end Row

/-- A record in a table: its row and the lines of its history. -/
structure Stored where
  row : Row
  history : List Json
  deriving DecidableEq, Repr

/-- What a list has beyond the first `stored` values, unless it has fewer. -/
def unsaved? {α : Type} (stored : Nat) (l : List α) : Option (List α) :=
  if stored ≤ l.length then some (l.drop stored) else none

theorem append_of_unsaved? {α : Type} {l m rest : List α} (h : unsaved? l.length m = some rest)
    (hl : l <+: m) : l ++ rest = m := by
  obtain ⟨t, rfl⟩ := hl
  unfold unsaved? at h
  simp_all

namespace Stored

/-- The form in which a record is stored first. -/
def ofRecord (now : Instant) (r : Record) : Stored :=
  ⟨.ofRecord now r, r.history.map Entry.toJson⟩

/-- Saves a later version of a stored record, unless its history has become shorter. -/
def save? (s : Stored) (now : Instant) (r : Record) : Option Stored :=
  (unsaved? s.history.length (r.history.map Entry.toJson)).map fun lines =>
    { row := { Row.ofRecord now r with workflowId := s.row.workflowId, created := s.row.created }
      history := s.history ++ lines }

/-- The record that is stored. -/
def load (s : Stored) : Except Corruption Record :=
  match s.row.data.table? with
  | none => .error (.dataNotObject s.row.id)
  | some data =>
    match s.history.mapM Entry.decode, Marks.decode s.row.marks, Buckets.decode s.row.buckets with
    | some history, some marks, some buckets =>
      .ok { id := s.row.id, workflowId := s.row.workflowId, status := s.row.status, data,
            submitter := s.row.submitter, marks, history, buckets, lastUpdate := s.row.lastUpdate }
    | _, _, _ => .error (.unreadable s.row.id)

end Stored
end Docket
