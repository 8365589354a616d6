import Docket.Marks
import Docket.Time
import Docket.Uuid

/-!
# Records

A record is one instance of a workflow: its status, its data, who submitted it, the marked statuses,
its history and the roles that its workflow's functions have.  The history only grows: each line
says what happened to the record, when and by whom, and which status it came into, if any.
-/

namespace Docket

/-- What starts a pass or a move. -/
inductive Origin where
  | automatic
  | interactive
  | webservice
  | globalAction
  | timeout
  deriving DecidableEq, Repr

/-- A line of a record's history. -/
structure Entry where
  time : Instant
  /-- The status that the record came into; none for an edit that moved nothing. -/
  status : Option String
  actor : Option String
  origin : Origin
  action : Option String
  label : Option String
  deriving DecidableEq, Repr

/-- The roles of the functions of a workflow. -/
abbrev Buckets := Table NameSet

/-- An instance of a workflow. -/
structure Record where
  id : Uuid
  workflowId : String
  status : String
  data : Table Json
  submitter : Option String
  marks : Marks
  history : List Entry
  buckets : Buckets
  lastUpdate : Instant
  deriving DecidableEq, Repr

/-- When something happens to a record, on whose behalf, and what the host adds to the variables. -/
structure Moment where
  user : Option String
  origin : Origin
  now : Instant
  bindings : Table Json
  deriving DecidableEq, Repr

namespace Record

/-- A fresh record in the first status of a workflow. -/
def create (w : Workflow) (id : Uuid) (now : Instant) (data : Table Json)
    (submitter : Option String) : Record :=
  { id, workflowId := w.id, status := w.initial, data, submitter, marks := [], history := [],
    buckets := ∅, lastUpdate := now }

/-- The roles of a function in order. -/
def rolesFor (r : Record) (function : String) : List String :=
  match r.buckets.value? function with
  | some roles => roles.items
  | none => []

end Record
end Docket
