import Docket.Service

/-!
# Changes of records

A request that changes a record is a task of several steps: it reserves the lock of the record,
enters, loads the record, runs a pass, saves, hands the after-jobs to the queue one by one, and
leaves.  A pass that fails is not saved, and its task leaves at once.  The steps of different tasks
may come in any order; only entering may have to wait.

`Service.carryOut` takes the steps of one task one after the other.
-/

namespace Docket

/-- What a request wants to do to a record. -/
inductive Change where
  | create (workflow : String) (data : Table Json)
  | run
  | submit (item : String) (form : Table Json)
  | trigger (name : String)
  | runGlobal (action : String)
  deriving DecidableEq, Repr

/-- A change on its way. -/
structure Task where
  /-- What tells tasks apart. -/
  number : Nat
  /-- The record that is changed, or the identifier of a new one. -/
  recordId : Uuid
  user : Option String
  now : Instant
  change : Change
  deriving DecidableEq, Repr

/-- A record after a pass. -/
structure Changed where
  record : Record
  outcome : Outcome
  deriving DecidableEq, Repr

/-- How far a task is. -/
inductive Stage where
  | begun
  | waiting
  | entered
  | loaded (graph : Graph) (record : Record)
  | passed (result : Changed)
  /-- The record is saved, and some of the after-jobs are still to be handed to the queue. -/
  | saved (unsent : List AfterJob) (result : Changed)
  | leaving (answer : Except ServiceError Changed)
  | finished (answer : Except ServiceError Changed)

namespace Stage

/-- The number of kinds of stages that a task comes through from here on at most. -/
def rank : Stage → Nat
  | .begun => 7
  | .waiting => 6
  | .entered => 5
  | .loaded .. => 4
  | .passed _ => 3
  | .saved .. => 2
  | .leaving _ => 1
  | .finished _ => 0

/-- The after-jobs of a saved record that are still to be handed to the queue. -/
def unsent : Stage → List AfterJob
  | .saved unsent _ => unsent
  | _ => []

/-- The order in which a task comes through its stages: later ones are smaller. -/
def Later : Stage → Stage → Prop :=
  InvImage (Prod.Lex (· < ·) (· < ·)) fun stage => (stage.rank, stage.unsent.length)

theorem later_wf : WellFounded Later :=
  InvImage.wf _ (Prod.lex Nat.lt_wfRel Nat.lt_wfRel).wf

theorem later_of_rank_lt {a b : Stage} (h : a.rank < b.rank) : a.Later b := Prod.Lex.left _ _ h

end Stage

namespace Task

def moment (t : Task) : Moment :=
  let at_ (user : Option String) (origin : Origin) : Moment :=
    { user, origin, now := t.now, bindings := ∅ }
  match t.change with
  | .create .. => at_ t.user .automatic
  | .run => at_ none .automatic
  | .submit .. => at_ t.user .interactive
  | .trigger _ => at_ none .webservice
  | .runGlobal _ => at_ t.user (if t.user.isSome then .interactive else .webservice)

def pass (t : Task) (scene : Scene) (r : Record) (world : World) : Reply Outcome :=
  match t.change with
  | .create .. | .run => scene.run r world
  | .submit item form => scene.submit r world item form
  | .trigger name => scene.trigger r world name
  | .runGlobal action => scene.runGlobal r world action

end Task

namespace Service

/-- The workflow that a task needs before anything else. -/
def precheck (s : Service) (t : Task) : Except ServiceError Unit :=
  match t.change with
  | .create workflow _ => (s.graph workflow).map fun _ => ()
  | _ => .ok ()

/-- The record of a task and its workflow: a fresh one, or the last version that is kept. -/
def fetch (s : Service) (t : Task) : Except ServiceError (Graph × Record) :=
  match t.change with
  | .create workflow data => do
    let g ← s.graph workflow
    return (g, Record.create g.workflow t.recordId t.now data t.user)
  | _ => s.find t.recordId

def scene (s : Service) (t : Task) (graph : Graph) : Scene :=
  { engine := s.engine, graph, moment := t.moment }

/-- The next step of a task, if it has one and need not wait. -/
def step (s : Service) (t : Task) : Stage → Option (Service × Stage)
  | .begun =>
    match s.precheck t with
    | .error e => some (s, .finished (.error e))
    | .ok () => some ({ s with locks := s.locks.reserve t.number t.recordId }, .waiting)
  | .waiting => (s.locks.enter? t.number).map fun locks => ({ s with locks }, .entered)
  | .entered =>
    match s.fetch t with
    | .error e => some (s, .leaving (.error e))
    | .ok (g, r) => some (s, .loaded g r)
  | .loaded graph r =>
    let reply := t.pass (s.scene t graph) r s.world
    let s := { s with world := reply.world }
    match reply.answer with
    | .error e => some (s, .leaving (.error (.refused e)))
    | .ok outcome => some (s, .passed ⟨reply.record, outcome⟩)
  | .passed result =>
    match s.store.save result.record with
    | .error e => some (s, .leaving (.error e))
    | .ok store => some ({ s with store }, .saved result.outcome.jobs result)
  | .saved (job :: unsent) result => some (s.enqueue [job], .saved unsent result)
  | .saved [] result => some (s, .leaving (.ok result))
  | .leaving answer => some ({ s with locks := s.locks.leave t.number }, .finished answer)
  | .finished _ => none

/-- What a step of a task can do. -/
inductive Stepped (s : Service) (t : Task) : Stage → Service → Stage → Prop
  | turnedAway {e : ServiceError} : s.precheck t = .error e →
      Stepped s t .begun s (.finished (.error e))
  | reserved : s.precheck t = .ok () →
      Stepped s t .begun { s with locks := s.locks.reserve t.number t.recordId } .waiting
  | entered {locks : Locks} : s.locks.enter? t.number = some locks →
      Stepped s t .waiting { s with locks } .entered
  | missed {e : ServiceError} : s.fetch t = .error e → Stepped s t .entered s (.leaving (.error e))
  | loaded {g : Graph} {r : Record} : s.fetch t = .ok (g, r) → Stepped s t .entered s (.loaded g r)
  | refused {g : Graph} {r : Record} {e : EngineError} :
      (t.pass (s.scene t g) r s.world).answer = .error e →
      Stepped s t (.loaded g r) { s with world := (t.pass (s.scene t g) r s.world).world }
        (.leaving (.error (.refused e)))
  | passed {g : Graph} {r : Record} {outcome : Outcome} :
      (t.pass (s.scene t g) r s.world).answer = .ok outcome →
      Stepped s t (.loaded g r) { s with world := (t.pass (s.scene t g) r s.world).world }
        (.passed ⟨(t.pass (s.scene t g) r s.world).record, outcome⟩)
  | unsaved {result : Changed} {e : ServiceError} : s.store.save result.record = .error e →
      Stepped s t (.passed result) s (.leaving (.error e))
  | saved {result : Changed} {store : Store} : s.store.save result.record = .ok store →
      Stepped s t (.passed result) { s with store } (.saved result.outcome.jobs result)
  | sent (job : AfterJob) (unsent : List AfterJob) (result : Changed) :
      Stepped s t (.saved (job :: unsent) result) (s.enqueue [job]) (.saved unsent result)
  | done (result : Changed) : Stepped s t (.saved [] result) s (.leaving (.ok result))
  | left (answer : Except ServiceError Changed) :
      Stepped s t (.leaving answer) { s with locks := s.locks.leave t.number } (.finished answer)

theorem step_stepped {s next : Service} {t : Task} {stage after : Stage}
    (h : s.step t stage = some (next, after)) : Stepped s t stage next after := by
  cases stage with
  | begun =>
    simp only [step] at h
    split at h
    · next he => cases h; exact .turnedAway he
    · next ho => cases h; exact .reserved ho
  | waiting =>
    obtain ⟨locks, hl, he⟩ := Option.map_eq_some_iff.1 h
    cases he
    exact .entered hl
  | entered =>
    simp only [step] at h
    split at h
    · next he => cases h; exact .missed he
    · next ho => cases h; exact .loaded ho
  | loaded graph r =>
    simp only [step] at h
    split at h
    · next he => cases h; exact .refused he
    · next ho => cases h; exact .passed ho
  | passed result =>
    simp only [step] at h
    split at h
    · next he => cases h; exact .unsaved he
    · next ho => cases h; exact .saved ho
  | saved unsent result =>
    cases unsent with
    | nil => cases h; exact .done result
    | cons job unsent => cases h; exact .sent job unsent result
  | leaving answer => cases h; exact .left answer
  | finished answer => cases h

theorem step_later {s next : Service} {t : Task} {stage after : Stage}
    (h : s.step t stage = some (next, after)) : after.Later stage := by
  cases step_stepped h with
  | sent job unsent result => exact Prod.Lex.right _ (Nat.lt_succ_self _)
  | _ => exact Stage.later_of_rank_lt (by simp [Stage.rank])

/-- Takes all steps of a task that it can take without waiting. -/
def steps (t : Task) (s : Service) (stage : Stage) : Service × Stage :=
  match _h : s.step t stage with
  | some (next, after) => steps t next after
  | none => (s, stage)
termination_by Stage.later_wf.wrap stage
decreasing_by exact step_later _h

/-- Takes all steps of a task; there is no answer if it has to wait. -/
def carryOut (s : Service) (t : Task) : Service × Option (Except ServiceError Changed) :=
  match steps t s .begun with
  | (s, .finished answer) => (s, some answer)
  | (s, _) => (s, none)

end Service
end Docket
