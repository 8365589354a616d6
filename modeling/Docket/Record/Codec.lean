import Docket.Json.Decoder
import Docket.Record

/-!
# Records as JSON

Reading takes missing data, marks, history and roles for none.  Marks are listed with the last one
at the end.  What is written is read back as the same record.
-/

namespace Docket

open Decoder

namespace Origin

def all : List Origin := [.automatic, .interactive, .webservice, .globalAction, .timeout]

def name : Origin → String
  | .automatic => "automatic"
  | .interactive => "interactive"
  | .webservice => "webservice"
  | .globalAction => "global_action"
  | .timeout => "timeout"

def decode : Decoder Origin := case .own name all

end Origin

def Instant.toJson (t : Instant) : Json := .str t.write

namespace Entry

def decode : Decoder Entry := record do
  return {
    time := ← field "time" instant
    status := ← field? "status" text
    actor := ← field? "actor" text
    origin := ← field "origin" Origin.decode
    action := ← field? "action_id" text
    label := ← field? "identifier" text }

def toJson (e : Entry) : Json :=
  Json.object [("time", e.time.toJson), ("status", .text? e.status), ("actor", .text? e.actor),
    ("origin", .str e.origin.name), ("action_id", .text? e.action), ("identifier", .text? e.label)]

end Entry

def Marks.decode : Decoder Marks := fun j => (list text j).map List.reverse

def Marks.toJson (marks : Marks) : Json := .texts marks.reverse

def Buckets.decode : Decoder Buckets := table nameSet

def Buckets.toJson (buckets : Buckets) : Json :=
  .ofTable (buckets.mapValues fun roles => .texts roles.items)

namespace Record

def decode : Decoder Record := record do
  return {
    id := ← field "id" uuid
    workflowId := ← field "workflow_id" text
    status := ← field "status" text
    data := ← fieldOr "data" Json.table? ∅
    submitter := ← fieldOrNone "submitter" text
    marks := ← fieldOr "marker_stack" Marks.decode []
    history := ← fieldOr "evolution" (list Entry.decode) []
    buckets := ← fieldOr "workflow_roles" Buckets.decode ∅
    lastUpdate := ← field "last_update" instant }

def toJson (r : Record) : Json :=
  Json.object [("id", .str r.id.write), ("workflow_id", .str r.workflowId), ("status", .str r.status),
    ("data", .ofTable r.data), ("submitter", .text? r.submitter), ("marker_stack", r.marks.toJson),
    ("evolution", .arr (r.history.map Entry.toJson)), ("workflow_roles", r.buckets.toJson),
    ("last_update", r.lastUpdate.toJson)]

end Record
end Docket
