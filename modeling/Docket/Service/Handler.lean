import Docket.Engine.Codec
import Docket.Service.Change
import Docket.Service.Look
import Docket.Service.Request

/-!
# Answering requests

The service first asks whether it knows the path, then whether the path has the method, then reads
the parameters and the body, and then does what the request wants.  A request with several faults is
answered for the first of them.

`OPTIONS` is answered for every path, and `HEAD` like `GET` without a body.
-/

namespace Docket

/-- What a request brings along when it arrives. -/
structure Arrival where
  /-- The number of its task. -/
  task : Nat
  /-- The identifier of the record that it may create. -/
  fresh : Uuid
  now : Instant
  deriving DecidableEq, Repr

namespace Service

/-! ## Values of answers -/

def changedJson (c : Changed) : Json :=
  Json.object [("record", c.record.toJson), ("outcome", c.outcome.toJson)]

def viewJson (v : RecordView) : Json :=
  Json.object [("record", v.record.toJson), ("actions", .arr (v.actions.map SurfaceItem.toJson)),
    ("messages", .arr (v.messages.map ShownMessage.toJson))]

def summaryJson (g : Graph) : Json :=
  Json.object [("id", .str g.workflow.id), ("name", .str g.workflow.name),
    ("initial_status", .str g.workflow.initial),
    ("statuses", .texts (g.workflow.statuses.map Status.id)),
    ("global_actions", .texts (g.workflow.globalActions.map GlobalAction.id))]

/-- The answer to a refused request. -/
def refusal (e : ServiceError) : Response :=
  ⟨e.status, some (Json.object [("error", .str e.message)])⟩

/-- An answer with a value, or a refusal. -/
def respond {α : Type} (status : Nat) (toJson : α → Json) : Except ServiceError α → Response
  | .ok a => ⟨status, some (toJson a)⟩
  | .error e => refusal e

/-! ## Requests -/

/-- The change that a request to a route wants and its record, or the status of the answer to a
request that cannot be read. -/
def wanted (route : Route) (r : Request) (arrival : Arrival) : Except Nat (Uuid × Change) :=
  match route with
  | .records => do
    let c ← r.readBody Creation.body
    return (arrival.fresh, .create c.workflow c.data)
  | .run id => do
    let some id := recordParameter? id | throw 400
    return (id, .run)
  | .submit id item => do
    let (some id, some item) := (recordParameter? id, Percent.decode? item) | throw 400
    let form ← r.readBody formBody
    return (id, .submit item form)
  | .trigger id name => do
    let (some id, some name) := (recordParameter? id, Percent.decode? name) | throw 400
    return (id, .trigger name)
  | .runGlobal id action => do
    let (some id, some action) := (recordParameter? id, Percent.decode? action) | throw 400
    return (id, .runGlobal action)
  | .workflows | .failures | .record _ => throw 405

/-- The status of the answer to a request that succeeds. -/
def successStatus : Change → Nat
  | .create .. => 201
  | _ => 200

/-- Answers a request to a route that is only looked at. -/
def read (s : Service) (route : Route) (r : Request) (arrival : Arrival) : Service × Response :=
  match route with
  | .workflows => (s, ⟨200, some (.arr (s.workflows.items.map summaryJson))⟩)
  | .failures => (s, ⟨200, some (.arr (s.world.log.lines.map LoggedError.toJson))⟩)
  | .record id =>
    match recordParameter? id with
    | none => (s, ⟨400, none⟩)
    | some id =>
      let (s, view) := s.look { recordId := id, user := r.actingUser?, now := arrival.now }
      (s, respond 200 viewJson view)
  | _ => (s, ⟨405, none⟩)

/-- Answers a request that changes a record; there is no answer while it has to wait. -/
def change (s : Service) (route : Route) (r : Request) (arrival : Arrival) :
    Service × Option Response :=
  match wanted route r arrival with
  | .error status => (s, some ⟨status, none⟩)
  | .ok (recordId, change) =>
    let task : Task :=
      { number := arrival.task, recordId, user := r.actingUser?, now := arrival.now, change }
    let (s, answer) := s.carryOut task
    (s, answer.map (respond (successStatus change) changedJson))

/-- Answers a request; there is no answer while it has to wait. -/
def answer (s : Service) (r : Request) (arrival : Arrival) : Service × Option Response :=
  if r.method = "OPTIONS" then (s, some ⟨200, none⟩)
  else
    match Route.ofTarget? r.path with
    | none => (s, some ⟨404, none⟩)
    | some route =>
      if !route.allows r.method then (s, some ⟨405, none⟩)
      else if route.isRead then
        let (s, response) := s.read route r arrival
        (s, some (if r.method = "HEAD" then { response with body := none } else response))
      else s.change route r arrival

end Service
end Docket
