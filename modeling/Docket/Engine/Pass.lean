import Docket.Engine.Action

/-!
# Passes

A pass visits the status of the record, item by item.  An interactive item whose condition holds
suspends the pass; an item that moves the record starts the visit of the next status; and when no
item moves it the pass is over.  The variables that the items see are those of the record at the
start of the visit.

A pass makes at most as many moves as the settings allow.  `Scene.drive` counts them down.
-/

namespace Docket.Scene

open Expression (Variables)

variable (s : Scene)

/-- What comes of visiting a status. -/
inductive Visit where
  /-- No item moved the record. -/
  | through
  /-- The record is in another status now. -/
  | moved
  /-- The pass is over. -/
  | halted
  deriving DecidableEq, Repr

/-- Visits items one after the other. -/
def visit (vars : Variables) : List Item → Pass → Pass × Visit
  | [], p => (p, .through)
  | item :: rest, p =>
    let p := s.noteCondition vars item p
    if s.holds vars item then
      if item.isInteractive then ({ p with ending := some (.suspended item.id) }, .halted)
      else
        match s.perform vars item p with
        | (p, none) => visit vars rest p
        | (p, some m) =>
          match s.move item m p with
          | (p, .moved) => (p, .moved)
          | (p, .stayed) => visit vars rest p
          | (p, .limited) => (p, .halted)
    else visit vars rest p

/-- The pass at its end, when no item of a status moved the record. -/
def settle (status : Status) (p : Pass) : Pass :=
  { p with ending := some (if status.isEndpoint then .terminal else .waiting) }

/-- Visits statuses until the pass is over, with a number of moves left. -/
def drive : Nat → Pass → Pass × Except EngineError Unit
  | left, p =>
    match s.graph.status? p.record.status with
    | none => (p, .error (.unknownStatus p.record.status))
    | some status =>
      match s.visit (s.bindings p) status.items p, left with
      | (p, .halted), _ => (p, .ok ())
      | (p, .through), _ => (settle status p, .ok ())
      | (p, .moved), 0 => (p, .ok ())
      | (p, .moved), left + 1 => drive left p

/-- Goes on with a pass that may have been cut short. -/
def goOn (p : Pass) : Pass × Except EngineError Unit :=
  if p.ending = some .hopLimit then (p, .ok ())
  else s.drive (s.engine.settings.maxHops - p.hops) p

/-- Runs the items of a global action up to the first that moves the record. -/
def performGlobal (vars : Variables) : List Item → Pass → Pass
  | [], p => p
  | item :: rest, p =>
    if item.isInteractive then performGlobal vars rest p
    else
      let p := s.noteCondition vars item p
      if s.holds vars item then
        match s.perform vars item p with
        | (p, none) => performGlobal vars rest p
        | (p, some m) =>
          match s.move item { m with origin := .globalAction } p with
          | (p, .stayed) => performGlobal vars rest p
          | (p, _) => p
      else performGlobal vars rest p

end Docket.Scene
