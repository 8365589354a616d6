import Docket.Service

/-!
# Looking at a record

A request that looks at a record loads it, then asks which items the acting user may fire, then for
the messages.  It takes no lock, and nothing is changed but the failure log.

`Service.look` takes these steps one after the other.
-/

namespace Docket

/-- A record as a user sees it. -/
structure RecordView where
  record : Record
  actions : List SurfaceItem
  messages : List ShownMessage
  deriving DecidableEq, Repr

/-- A request that looks at a record. -/
structure Look where
  recordId : Uuid
  user : Option String
  now : Instant
  deriving DecidableEq, Repr

namespace Look

/-- How far a look at a record is. -/
inductive Stage where
  | begun
  | found (graph : Graph) (record : Record)
  | surfaced (graph : Graph) (record : Record) (actions : List SurfaceItem)
  | finished (answer : Except ServiceError RecordView)

def moment (l : Look) : Moment :=
  { user := l.user, origin := .interactive, now := l.now, bindings := ∅ }

end Look

namespace Service

/-- Asks something of a record for a user. -/
def ask {α : Type} (s : Service) (l : Look) (graph : Graph)
    (question : Scene → World → Reply α) : Service × Except ServiceError α :=
  let reply := question { engine := s.engine, graph, moment := l.moment } s.world
  ({ s with world := reply.world }, reply.answer.mapError .refused)

theorem ask_eq {α : Type} {s next : Service} {l : Look} {g : Graph}
    {question : Scene → World → Reply α} {answer : Except ServiceError α}
    (h : s.ask l g question = (next, answer)) : ∃ world, next = { s with world } :=
  ⟨_, (congrArg Prod.fst h).symm⟩

/-- The next step of a look, if it has one. -/
def lookStep (s : Service) (l : Look) : Look.Stage → Option (Service × Look.Stage)
  | .begun =>
    match s.find l.recordId with
    | .error e => some (s, .finished (.error e))
    | .ok (g, r) => some (s, .found g r)
  | .found g r =>
    match s.ask l g fun scene world => scene.surface r world with
    | (s, .error e) => some (s, .finished (.error e))
    | (s, .ok actions) => some (s, .surfaced g r actions)
  | .surfaced g r actions =>
    match s.ask l g fun scene world => scene.messages r world with
    | (s, .error e) => some (s, .finished (.error e))
    | (s, .ok messages) => some (s, .finished (.ok ⟨r, actions, messages⟩))
  | .finished _ => none

/-- What a step of a look can do. -/
inductive Looked (s : Service) (l : Look) : Look.Stage → Service → Look.Stage → Prop
  | missed {e : ServiceError} : s.find l.recordId = .error e →
      Looked s l .begun s (.finished (.error e))
  | found {g : Graph} {r : Record} : s.find l.recordId = .ok (g, r) →
      Looked s l .begun s (.found g r)
  | refused {g : Graph} {r : Record} {next : Service} {e : ServiceError} :
      (s.ask l g fun scene world => scene.surface r world) = (next, .error e) →
      Looked s l (.found g r) next (.finished (.error e))
  | surfaced {g : Graph} {r : Record} {next : Service} {actions : List SurfaceItem} :
      (s.ask l g fun scene world => scene.surface r world) = (next, .ok actions) →
      Looked s l (.found g r) next (.surfaced g r actions)
  | unanswered {g : Graph} {r : Record} {actions : List SurfaceItem} {next : Service}
      {e : ServiceError} :
      (s.ask l g fun scene world => scene.messages r world) = (next, .error e) →
      Looked s l (.surfaced g r actions) next (.finished (.error e))
  | answered {g : Graph} {r : Record} {actions : List SurfaceItem} {next : Service}
      {messages : List ShownMessage} :
      (s.ask l g fun scene world => scene.messages r world) = (next, .ok messages) →
      Looked s l (.surfaced g r actions) next (.finished (.ok ⟨r, actions, messages⟩))

theorem lookStep_looked {s next : Service} {l : Look} {stage after : Look.Stage}
    (h : s.lookStep l stage = some (next, after)) : Looked s l stage next after := by
  cases stage with
  | begun =>
    simp only [lookStep] at h
    split at h
    · next he => cases h; exact .missed he
    · next ho => cases h; exact .found ho
  | found g r =>
    simp only [lookStep] at h
    split at h
    · next he => cases h; exact .refused he
    · next ho => cases h; exact .surfaced ho
  | surfaced g r actions =>
    simp only [lookStep] at h
    split at h
    · next he => cases h; exact .unanswered he
    · next ho => cases h; exact .answered ho
  | finished answer => cases h

/-- Takes all steps of a look. -/
def look (s : Service) (l : Look) : Service × Except ServiceError RecordView :=
  match s.find l.recordId with
  | .error e => (s, .error e)
  | .ok (g, r) =>
    match s.ask l g fun scene world => scene.surface r world with
    | (s, .error e) => (s, .error e)
    | (s, .ok actions) =>
      let (s, messages) := s.ask l g fun scene world => scene.messages r world
      (s, messages.map fun messages => ⟨r, actions, messages⟩)

end Service
end Docket
