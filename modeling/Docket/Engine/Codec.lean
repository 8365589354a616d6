import Docket.Engine.View

/-!
# Answers as JSON

What operations answer is only written, never read.
-/

namespace Docket

def PassState.toJson : PassState → Json
  | .waiting => Json.object [("state", .str "waiting")]
  | .suspended item => Json.object [("state", .str "suspended"), ("item", .str item)]
  | .terminal => Json.object [("state", .str "terminal")]
  | .hopLimit => Json.object [("state", .str "hop_limit")]

def Outcome.toJson (o : Outcome) : Json :=
  Json.object [("status", .str o.status), ("state", o.state.toJson), ("hops", .nat o.hops),
    ("failures", .nat o.failures), ("after_jobs", .arr (o.jobs.map AfterJob.toJson))]

def SurfaceItem.toJson (i : SurfaceItem) : Json :=
  Json.object [("id", .str i.id), ("kind", .str i.kind.name), ("label", .text? i.label),
    ("require_confirmation", .bool i.needsConfirmation),
    ("confirmation_text", .text? i.confirmation),
    ("fields", match i.fields with | some names => .texts names | none => .null)]

def ShownMessage.toJson (m : ShownMessage) : Json :=
  Json.object [("item", .str m.item), ("level", .str m.level.name), ("text", .str m.text)]

end Docket
