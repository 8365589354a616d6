import Docket.Engine.Operation

/-!
# What a person sees of a record

`surface` lists the items that the acting user may fire now, and `messages` the messages of the
status for that user.  Neither changes the record; conditions and templates that cannot be evaluated
are recorded.
-/

namespace Docket

open Expression (Variables)

/-- An item that a person may fire. -/
structure SurfaceItem where
  id : String
  kind : ActionKind
  label : Option String
  needsConfirmation : Bool
  confirmation : Option String
  /-- The fields that may be changed; all if there is no list. -/
  fields : Option (List String)
  deriving DecidableEq, Repr

/-- A message with its text. -/
structure ShownMessage where
  item : String
  level : MessageLevel
  text : String
  deriving DecidableEq, Repr

def EditScope.fields? : EditScope → Option (List String)
  | .full => none
  | .fields names => some names

namespace Scene

variable (s : Scene)

def surfaceItem? (p : Pass) (item : Item) : Option SurfaceItem :=
  match item.action with
  | .choice c =>
    if s.admits p c.admitted then
      some { id := item.id, kind := .choice, label := some c.label,
             needsConfirmation := c.needsConfirmation, confirmation := c.confirmation,
             fields := none }
    else none
  | .edit e =>
    if s.admits p e.admitted then
      some { id := item.id, kind := .edit, label := e.label, needsConfirmation := false,
             confirmation := none, fields := e.scope.fields? }
    else none
  | _ => none

/-- The items that the acting user may fire, among those of a list. -/
def surfaceItems (vars : Variables) : List Item → Pass → Pass × List SurfaceItem
  | [], p => (p, [])
  | item :: rest, p =>
    match s.surfaceItem? p item with
    | none => surfaceItems vars rest p
    | some shown =>
      let p := s.noteCondition vars item p
      let (p, more) := surfaceItems vars rest p
      (p, if s.holds vars item then shown :: more else more)

/-- A message with its text, unless nothing is in it. -/
def showMessage (vars : Variables) (item : Item) (m : Message) (p : Pass) :
    Pass × List ShownMessage :=
  match s.engine.rules.renderText vars m.template with
  | .ok text =>
    (p, if Text.isBlankText text then [] else [⟨item.id, m.level.getD .info, text⟩])
  | .error e => (s.fail item .templateFailed e.message p, [])

def shownMessages (vars : Variables) : List Item → Pass → Pass × List ShownMessage
  | [], p => (p, [])
  | item :: rest, p =>
    match item.action with
    | .message m =>
      if s.admits p m.viewers then
        let p := s.noteCondition vars item p
        if s.holds vars item then
          let (p, shown) := s.showMessage vars item m p
          let (p, more) := shownMessages vars rest p
          (p, shown ++ more)
        else shownMessages vars rest p
      else shownMessages vars rest p
    | _ => shownMessages vars rest p

/-- Looks at the items of the status of a record. -/
def look {α : Type} (record : Record) (world : World)
    (view : Variables → List Item → Pass → Pass × α) : Reply α :=
  let p := Pass.start record world
  match (do s.begin? record; s.statusOf record) with
  | .error e => refuse p e
  | .ok status =>
    let (p, a) := view (s.bindings p) status.items p
    { record := p.record, world := p.world, answer := .ok a }

def surface (record : Record) (world : World) : Reply (List SurfaceItem) :=
  s.look record world s.surfaceItems

def messages (record : Record) (world : World) : Reply (List ShownMessage) :=
  s.look record world s.shownMessages

end Scene
end Docket
