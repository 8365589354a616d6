import Docket.Json.Decoder
import Docket.Json.Shape

/-!
# The bodies of requests

A body is read from its front, and its first fault decides what is said about it.  What comes after
the end of the value is not looked at.
-/

namespace Docket

/-- A body that is expected: its shape, and what a value of this shape says. -/
structure Body (α : Type) where
  shape : Json.Shape
  decode : Decoder α

/-- What a text says as a body. -/
def Body.read {α : Type} (body : Body α) (text : String) : Except Json.Fault α := do
  let (value, _) ← body.shape.front text
  match body.decode value with
  | some a => return a
  | none => throw .misshapen

/-- What a new record is made of. -/
structure Creation where
  workflow : String
  data : Table Json
  deriving DecidableEq, Repr

/-- What a new record is made of, as a body. -/
def Creation.body : Body Creation where
  shape := .record [("workflow_id", .text), ("data", .table)] ["workflow_id"]
  decode := Decoder.record do
    let workflow ← Decoder.field "workflow_id" Decoder.text
    let data ← Decoder.fieldOr "data" (Decoder.table Decoder.any) ∅
    return ⟨workflow, data⟩

/-- The form of an action, as a body. -/
def formBody : Body (Table Json) := ⟨.table, Decoder.table Decoder.any⟩

end Docket
