import Docket.Expression.Eval
import Docket.Record.Codec

/-!
# What expressions see of a record

An expression that is evaluated for a record sees three layers of variables: what the engine says
about the record, over the record's data, over what the host adds.  Data under a name that starts
with an underscore is not seen.
-/

namespace Docket

namespace Record

/-- The name of a record's status, or its identifier where the workflow does not declare it. -/
def statusName (w : Workflow) (r : Record) : String :=
  match w.status? r.status with
  | some s => s.name
  | none => r.status

/-- What the engine says about a record. -/
def facts (w : Workflow) (r : Record) : List (String × Json) :=
  [("form_id", .str r.id.write), ("form_status", .str (r.statusName w)),
    ("form_status_id", .str r.status), ("form_submitter", .text? r.submitter),
    ("form_workflow_roles", r.buckets.toJson)]

/-- Whether a name starts with an underscore. -/
def isHidden (name : String) : Bool := name.toList.head? = some '_'

/-- A field of the data that is seen. -/
def visible? (r : Record) (name : String) : Option Json :=
  if isHidden name then none else r.data.value? name

/-- The variables of a record at a moment. -/
def bindings (w : Workflow) (r : Record) (m : Moment) : Expression.Variables := fun name =>
  (r.facts w).lookup name <|> r.visible? name <|> m.bindings.value? name

end Record
end Docket
