import Docket.Engine.View
import Docket.Job.Queue
import Docket.Record.Store
import Docket.Service.Locks

/-!
# The service

The service keeps records and lets requests work on them.  It holds the workflows that are loaded,
the records, the locks of the records, and the queue that after-jobs go to once a record is saved.
-/

namespace Docket

/-- Where the service keeps records. -/
inductive Store where
  | working (records : RecordStore)
  /-- Every access fails. -/
  | broken
  deriving DecidableEq, Repr

/-- Why the service refuses a request on a record. -/
inductive ServiceError where
  | unknownWorkflow (id : String)
  | unknownRecord (id : Uuid)
  | refused (error : EngineError)
  | storeFailed
  deriving DecidableEq, Repr

/-- The service. -/
structure Service where
  engine : Engine
  workflows : Keyed Graph.id
  store : Store
  locks : Locks
  /-- Where after-jobs go; without a queue they are dropped. -/
  queue : Option JobQueue
  world : World

namespace Store

def load (store : Store) (id : Uuid) : Except ServiceError Record :=
  match store with
  | .working records =>
    match records.get? id with
    | some r => .ok r
    | none => .error (.unknownRecord id)
  | .broken => .error .storeFailed

def save (store : Store) (r : Record) : Except ServiceError Store :=
  match store with
  | .working records => .ok (.working (records.insert r))
  | .broken => .error .storeFailed

theorem load_save {store next : Store} {r : Record} (h : store.save r = .ok next) (id : Uuid) :
    next.load id = if r.id = id then .ok r else store.load id := by
  cases store with
  | broken => simp [save] at h
  | working records =>
    obtain rfl := Except.ok.inj h
    simp only [load, Keyed.get?_insert]
    by_cases hid : r.id = id <;> simp [hid]

end Store

namespace ServiceError

/-- What the service says about a refusal.  What went wrong inside is not told. -/
def message : ServiceError → String
  | .unknownWorkflow id => "workflow " ++ id ++ " not found"
  | .unknownRecord id => "record " ++ id.write ++ " not found"
  | .refused error => if error.isUserVisible then error.message else "internal error"
  | .storeFailed => "internal error"

/-- The status of the answer to a request that the engine refuses. -/
def engineStatus : EngineError → Nat
  | .unknownItem _ | .unknownGlobalAction _ | .noMatchingTrigger _ => 404
  | .notInteractive _ | .unavailable _ => 409
  | .notAuthorised _ => 403
  | .fieldNotEditable _ => 422
  | .unknownStatus _ | .workflowMismatch .. => 500

def status : ServiceError → Nat
  | .unknownWorkflow _ | .unknownRecord _ => 404
  | .refused error => engineStatus error
  | .storeFailed => 500

end ServiceError

namespace Service

/-- A service with nothing in it. -/
def start (engine : Engine) (directory : Directory) : Service :=
  { engine, workflows := ∅, store := .working ∅, locks := .empty, queue := none,
    world := { directory, log := .empty, sent := [] } }

/-- Adds a workflow, in place of one with the same identifier. -/
def addWorkflow (g : Graph) (s : Service) : Service := { s with workflows := s.workflows.insert g }

def graph (s : Service) (id : String) : Except ServiceError Graph :=
  match s.workflows.get? id with
  | some g => .ok g
  | none => .error (.unknownWorkflow id)

/-- Hands jobs to the queue; a queue that is closed loses them. -/
def enqueue (jobs : List AfterJob) (s : Service) : Service :=
  { s with queue := s.queue.map fun q => (q.enqueue jobs).2 }

/-- Takes the first job out of the queue, for the worker. -/
def takeJob? (s : Service) : Option (AfterJob × Service) := do
  let (job, queue) ← (← s.queue).take?
  return (job, { s with queue := some queue })

theorem takeJob?_eq {s next : Service} {job : AfterJob} (h : s.takeJob? = some (job, next)) :
    ∃ rest, s.queue = some (.opened (job :: rest)) ∧
      next = { s with queue := some (.opened rest) } := by
  unfold takeJob? at h
  rcases hq : s.queue with _ | (_ | ⟨first, rest⟩) | _
  · rw [hq] at h; cases h
  · rw [hq] at h; cases h
  · rw [hq] at h; cases h; exact ⟨rest, rfl, rfl⟩
  · rw [hq] at h; cases h

/-- The last version of a record and its workflow. -/
def find (s : Service) (id : Uuid) : Except ServiceError (Graph × Record) := do
  let r ← s.store.load id
  let g ← s.graph r.workflowId
  return (g, r)

end Service
end Docket
