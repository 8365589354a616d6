import Docket.Job

/-!
# The queue of after-jobs

Jobs leave the queue in the order in which they came.  Once nobody takes jobs from the queue any
more it is closed, and a job that is put into it is lost.
-/

namespace Docket

/-- Why a job is not done. -/
inductive JobError where
  | queueClosed
  | notConfigured (service : String)
  | unreachable (reason : String)
  | answered (url : String) (status : Nat)
  | rejected (reason : String)
  deriving DecidableEq, Repr

def JobError.message : JobError → String
  | .queueClosed => "job queue is closed"
  | .notConfigured service => "no endpoint configured for " ++ service
  | .unreachable reason => "http error: " ++ reason
  | .answered url status => url ++ " answered " ++ toString status
  | .rejected reason => reason

/-- A queue of jobs. -/
inductive JobQueue where
  | opened (jobs : List AfterJob)
  | closed
  deriving DecidableEq, Repr

namespace JobQueue

def jobs : JobQueue → List AfterJob
  | .opened jobs => jobs
  | .closed => []

/-- Puts jobs into a queue, and counts them. -/
def enqueue (q : JobQueue) (more : List AfterJob) : Except JobError Nat × JobQueue :=
  match q with
  | .opened jobs => (.ok more.length, .opened (jobs ++ more))
  | .closed => (if more.isEmpty then .ok 0 else .error .queueClosed, .closed)

/-- Takes out the job that came first. -/
def take? : JobQueue → Option (AfterJob × JobQueue)
  | .opened (job :: rest) => some (job, .opened rest)
  | _ => none

end JobQueue
end Docket
