import Docket.Job.Queue

/-!
# The worker

The worker does the jobs of the queue one after the other, each once.  A notification is one call of
a gateway; a change of a role is one call for each identifier of the user, up to the first that
fails.  A job that fails is recorded at its site, and the worker goes on with the next one.

A gateway is known only by its answers: to every call, after the calls before it, it says nothing or
why the call failed.
-/

namespace Docket

/-- A call of a gateway. -/
inductive GatewayCall where
  | send (notice : Notice)
  | setMember (operation : RoleOperation) (roleId nameId : String)
  deriving DecidableEq, Repr

/-- What a gateway answers to a call after earlier calls: nothing if it succeeds. -/
abbrev Gateway := List GatewayCall → GatewayCall → Option JobError

/-- The calls that do a job, in order. -/
def AfterJob.calls : AfterJob → List GatewayCall
  | .notify _ notice => [.send notice]
  | .syncRole _ sync => sync.nameIds.map fun n => .setMember sync.operation sync.roleId n

/-- What became of a job. -/
structure JobReport where
  job : AfterJob
  /-- The calls that were made for it, in order. -/
  calls : List GatewayCall
  /-- Why the last of them failed, if it did. -/
  error : Option JobError
  deriving DecidableEq, Repr

namespace Worker

variable (gateway : Gateway)

/-- Makes calls up to the first that fails, after earlier ones. -/
def makeCalls : (before calls : List GatewayCall) → List GatewayCall × Option JobError
  | _, [] => ([], none)
  | before, call :: rest =>
    match gateway before call with
    | some e => ([call], some e)
    | none =>
      let (made, e) := makeCalls (before ++ [call]) rest
      (call :: made, e)

/-- Does a job after earlier calls. -/
def handle (before : List GatewayCall) (job : AfterJob) : JobReport :=
  let (calls, error) := makeCalls gateway before job.calls
  { job, calls, error }

/-- Does jobs in order, after earlier calls. -/
def run : (before : List GatewayCall) → List AfterJob → List JobReport
  | _, [] => []
  | before, job :: rest =>
    let report := handle gateway before job
    report :: run (before ++ report.calls) rest

end Worker

namespace JobReport

/-- What the log says about a job that failed. -/
def cause (job : AfterJob) (e : JobError) : String := job.name ++ " failed: " ++ e.message

def record (r : JobReport) (now : Instant) (log : FailureLog) : FailureLog :=
  match r.error with
  | some e => log.record now r.job.site r.job.failureKind (cause r.job e)
  | none => log

end JobReport
end Docket
