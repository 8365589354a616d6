import Docket.Job.Worker
import Mathlib.Data.List.Infix

/-! # A worker that goes on

The worker has two loops.  The inner one makes the calls of a job and stops at the first that fails;
the outer one takes the next job whatever became of the one before.

* `Gateway.Attempt` says how the calls of one job may have gone, and `Worker.makeCalls_attempt` that
  they went so, by induction over the calls.
* `Worker.run_split` finds every report of a run as what the worker does for that job alone, after the
  calls that were made until then.
* `Gateway.Agree` compares two gateways on the calls of one job only.  If they agree there, the job
  goes the same way (`Worker.handle_congr`), whatever was done for other jobs.
* `JobReport.foldl_record` turns a log that hears of every report into one that hears of the failed
  ones.  `Worker.run_isolates` is the statement about a whole run. -/

namespace Docket

variable {gateway gateway' : Gateway} {before before' calls : List GatewayCall}

/-! ### The calls of a job -/

/-- Each call of a list is so, given the calls of the list before it. -/
def EachCall (P : List GatewayCall → GatewayCall → Prop) (calls : List GatewayCall) : Prop :=
  ∀ made call rest, calls = made ++ call :: rest → P made call

theorem eachCall_nil (P : List GatewayCall → GatewayCall → Prop) : EachCall P [] := by
  intro made call rest h
  simp at h

theorem eachCall_cons {P : List GatewayCall → GatewayCall → Prop} {call : GatewayCall} :
    EachCall P (call :: calls) ↔ P [] call ∧ EachCall (fun made => P (call :: made)) calls := by
  constructor
  · intro h
    exact ⟨h [] call calls rfl, fun made c rest hc => h (call :: made) c rest (by rw [hc]; rfl)⟩
  · rintro ⟨hfirst, hrest⟩ made c rest hc
    rcases List.cons_eq_append_iff.mp hc with ⟨rfl, hc⟩ | ⟨made', rfl, hc'⟩
    · cases hc
      exact hfirst
    · exact hrest made' c rest hc'

namespace Gateway

/-- No call of the list fails, if they are made in order after earlier calls. -/
def Accepts (gateway : Gateway) (before calls : List GatewayCall) : Prop :=
  EachCall (fun made call => gateway (before ++ made) call = none) calls

/-- Two gateways answer the calls of a list alike, each after earlier calls of its own. -/
def Agree (gateway : Gateway) (before : List GatewayCall) (gateway' : Gateway)
    (before' calls : List GatewayCall) : Prop :=
  EachCall (fun made call => gateway' (before' ++ made) call = gateway (before ++ made) call) calls

/-- How it may go with the calls of a job: all are made and none fails, or they are made up to the
first that fails, and none after it. -/
inductive Attempt (gateway : Gateway) (before : List GatewayCall) :
    (calls made : List GatewayCall) → Option JobError → Prop
  | done {calls : List GatewayCall} : gateway.Accepts before calls →
      Attempt gateway before calls calls none
  | failed {made rest : List GatewayCall} {call : GatewayCall} {e : JobError} :
      gateway.Accepts before made → gateway (before ++ made) call = some e →
      Attempt gateway before (made ++ call :: rest) (made ++ [call]) (some e)

theorem accepts_nil : gateway.Accepts before [] := eachCall_nil _

theorem accepts_cons {call : GatewayCall} : gateway.Accepts before (call :: calls) ↔
    gateway before call = none ∧ gateway.Accepts (before ++ [call]) calls := by
  unfold Accepts
  rw [eachCall_cons]
  simp

theorem agree_cons {call : GatewayCall} : gateway.Agree before gateway' before' (call :: calls) ↔
    gateway' before' call = gateway before call ∧
      gateway.Agree (before ++ [call]) gateway' (before' ++ [call]) calls := by
  unfold Agree
  rw [eachCall_cons]
  simp

namespace Attempt

variable {made : List GatewayCall} {error : Option JobError}

theorem cons {call : GatewayCall} (hcall : gateway before call = none)
    (h : gateway.Attempt (before ++ [call]) calls made error) :
    gateway.Attempt before (call :: calls) (call :: made) error := by
  cases h with
  | done h => exact .done (accepts_cons.mpr ⟨hcall, h⟩)
  | @failed made rest c e h hfail =>
      have hlonger : gateway.Attempt before ((call :: made) ++ c :: rest) ((call :: made) ++ [c])
          (some e) := .failed (accepts_cons.mpr ⟨hcall, h⟩) (by simpa using hfail)
      exact hlonger

theorem isPrefix (h : gateway.Attempt before calls made error) : made <+: calls := by
  cases h with
  | done _ => exact List.prefix_rfl
  | @failed made rest call e _ _ => exact ⟨rest, by simp⟩

theorem of_singleton {call : GatewayCall} (h : gateway.Attempt before [call] made error) :
    made = [call] ∧ error = gateway before call := by
  generalize hcalls : [call] = calls at h
  cases h with
  | done h =>
      subst hcalls
      exact ⟨rfl, (accepts_cons.mp h).1.symm⟩
  | @failed made rest c e _ hfail =>
      rcases List.cons_eq_append_iff.mp hcalls with ⟨rfl, hc⟩ | ⟨made', rfl, hc⟩
      · cases hc
        exact ⟨rfl, by simpa using hfail.symm⟩
      · simp at hc

end Attempt

end Gateway

namespace Worker

/-- **The calls of a job are made up to the first that fails.** -/
theorem makeCalls_attempt (gateway : Gateway) (before calls : List GatewayCall) :
    gateway.Attempt before calls (makeCalls gateway before calls).1
      (makeCalls gateway before calls).2 := by
  induction calls generalizing before with
  | nil => exact .done Gateway.accepts_nil
  | cons call rest ih =>
      unfold makeCalls
      cases hcall : gateway before call with
      | some e =>
          have hfirst : gateway.Attempt before ([] ++ call :: rest) ([] ++ [call]) (some e) :=
            .failed Gateway.accepts_nil (by simpa using hcall)
          exact hfirst
      | none =>
          exact (ih (before ++ [call])).cons hcall

theorem makeCalls_congr (h : gateway.Agree before gateway' before' calls) :
    makeCalls gateway' before' calls = makeCalls gateway before calls := by
  induction calls generalizing before before' with
  | nil => rfl
  | cons call rest ih =>
      obtain ⟨hcall, hrest⟩ := Gateway.agree_cons.mp h
      unfold makeCalls
      rw [hcall, ih hrest]

/-! ### Jobs one after the other -/

theorem handle_job (gateway : Gateway) (before : List GatewayCall) (job : AfterJob) :
    (handle gateway before job).job = job := rfl

/-- **A job goes by the answers to its own calls.** -/
theorem handle_congr {job : AfterJob} (h : gateway.Agree before gateway' before' job.calls) :
    handle gateway' before' job = handle gateway before job := by
  unfold handle
  rw [makeCalls_congr h]

theorem run_jobs (gateway : Gateway) (before : List GatewayCall) (jobs : List AfterJob) :
    (run gateway before jobs).map JobReport.job = jobs := by
  induction jobs generalizing before with
  | nil => rfl
  | cons job rest ih =>
      unfold run
      rw [List.map_cons, handle_job, ih]

/-- **A report of a run is about one job alone**, done after the calls that were made until then. -/
theorem run_split {jobs : List AfterJob} {done later : List JobReport} {r : JobReport}
    (h : run gateway before jobs = done ++ r :: later) :
    r = handle gateway (before ++ done.flatMap JobReport.calls) r.job := by
  induction done generalizing before jobs with
  | nil =>
      cases jobs with
      | nil => cases h
      | cons job rest =>
          unfold run at h
          obtain ⟨rfl, -⟩ := List.cons.inj h
          simp [handle_job]
  | cons first done ih =>
      cases jobs with
      | nil => cases h
      | cons job rest =>
          unfold run at h
          obtain ⟨rfl, hrest⟩ := List.cons.inj h
          rw [List.flatMap_cons, ← List.append_assoc]
          exact ih hrest

end Worker

/-! ### What the recorder is told -/

namespace JobReport

variable {r : JobReport}

/-- What is recorded about a job when it is over: nothing unless it failed. -/
def incident? (now : Instant) (r : JobReport) : Option Incident :=
  r.error.map fun e => ⟨now, r.job.site, r.job.failureKind, cause r.job e⟩

/-- What is recorded about jobs that are over at given times. -/
def incidents (timed : List (Instant × JobReport)) : List Incident :=
  timed.filterMap fun t => t.2.incident? t.1

/-- **A log that hears of every report hears of the failed ones**, of each once. -/
theorem foldl_record (timed : List (Instant × JobReport)) (log : FailureLog) :
    timed.foldl (fun log t => t.2.record t.1 log) log =
      (incidents timed).foldl (fun log i => log.next (.record i)) log := by
  induction timed generalizing log with
  | nil => rfl
  | cons t rest ih =>
      obtain ⟨now, job, calls, error⟩ := t
      rw [List.foldl_cons, ih]
      cases error with
      | none => rfl
      | some e => rfl

/-- What is recorded names the failed jobs in order, each with its site and its kind. -/
theorem incidents_map (timed : List (Instant × JobReport)) :
    (incidents timed).map (fun i => (i.site, i.kind)) =
      ((timed.map Prod.snd).filter fun r => r.error.isSome).map fun r =>
        (r.job.site, r.job.failureKind) := by
  induction timed with
  | nil => rfl
  | cons t rest ih =>
      obtain ⟨now, job, calls, error⟩ := t
      cases error with
      | none => exact ih
      | some e => exact congrArg ((job.site, job.failureKind) :: ·) ih

end JobReport

/-! ### Runs -/

/-- What a job that is over has done, after the calls that were made before it, and what is recorded
about it. -/
structure JobReport.Follows (gateway : Gateway) (before : List GatewayCall) (r : JobReport) :
    Prop where
  attempt : gateway.Attempt before r.job.calls r.calls r.error
  notify : ∀ site notice, r.job = .notify site notice →
    r.calls = [.send notice] ∧ r.error = gateway before (.send notice) ∧
      ∀ now i, r.incident? now = some i → i.site = site ∧ i.kind = .notifyFailed
  syncRole : ∀ site sync, r.job = .syncRole site sync →
    (∃ names, names <+: sync.nameIds ∧
      r.calls = names.map (.setMember sync.operation sync.roleId)) ∧
      ∀ now i, r.incident? now = some i → i.site = site ∧ i.kind = .roleSyncFailed
  recorded : ∀ now, (r.incident? now).isSome = r.error.isSome

namespace JobReport

theorem incident?_eq_some {r : JobReport} {now : Instant} {i : Incident}
    (h : r.incident? now = some i) : i.site = r.job.site ∧ i.kind = r.job.failureKind := by
  obtain ⟨e, -, rfl⟩ := Option.map_eq_some_iff.mp h
  exact ⟨rfl, rfl⟩

end JobReport

namespace Worker

theorem handle_follows (gateway : Gateway) (before : List GatewayCall) (job : AfterJob) :
    (handle gateway before job).Follows gateway before where
  attempt := makeCalls_attempt gateway before job.calls
  notify site notice h := by
    rw [handle_job] at h
    subst h
    obtain ⟨hcalls, herror⟩ := (makeCalls_attempt gateway before [.send notice]).of_singleton
    exact ⟨hcalls, herror, fun _ _ hi => JobReport.incident?_eq_some hi⟩
  syncRole site sync h := by
    rw [handle_job] at h
    subst h
    have hprefix := (makeCalls_attempt gateway before (AfterJob.syncRole site sync).calls).isPrefix
    exact ⟨List.prefix_map_iff.mp hprefix, fun _ _ hi => JobReport.incident?_eq_some hi⟩
  recorded now := Option.isSome_map

/-- **The worker does each job once and isolates failures.**  The reports of a run are about its jobs
in order.  Each job follows its own calls, up to the first that fails; a log that hears of all reports
hears of the failed jobs alone, once each, with their sites and kinds.  And a job goes alike in any two
runs in which the gateways answer its own calls alike, whatever became of the jobs before it. -/
theorem run_isolates (gateway : Gateway) (before : List GatewayCall) (jobs : List AfterJob) :
    (run gateway before jobs).map JobReport.job = jobs ∧
    (∀ done r later, run gateway before jobs = done ++ r :: later →
      r.Follows gateway (before ++ done.flatMap JobReport.calls)) ∧
    (∀ timed, timed.map Prod.snd = run gateway before jobs → ∀ log,
      timed.foldl (fun log t => t.2.record t.1 log) log =
        (JobReport.incidents timed).foldl (fun log i => log.next (.record i)) log ∧
      (JobReport.incidents timed).map (fun i => (i.site, i.kind)) =
        ((run gateway before jobs).filter fun r => r.error.isSome).map fun r =>
          (r.job.site, r.job.failureKind)) ∧
    ∀ done r later gateway' before' jobs' done' r' later',
      run gateway before jobs = done ++ r :: later →
      run gateway' before' jobs' = done' ++ r' :: later' → r'.job = r.job →
      gateway.Agree (before ++ done.flatMap JobReport.calls) gateway'
        (before' ++ done'.flatMap JobReport.calls) r.job.calls →
      r' = r := by
  refine ⟨run_jobs gateway before jobs, fun done r later h => ?_, fun timed htimed log => ?_, ?_⟩
  · rw [run_split h]
    exact handle_follows ..
  · rw [← htimed]
    exact ⟨JobReport.foldl_record timed log, JobReport.incidents_map timed⟩
  · intro done r later gateway' before' jobs' done' r' later' h h' hjob hagree
    rw [run_split h, run_split h', hjob]
    exact handle_congr hagree

end Worker

/-! ### A sample

A role for a user with two identifiers, and after it a short message. -/

namespace Sample

def site : FailureSite := ⟨"request", some "draft", some "grant", none⟩

def notice : Notice := ⟨.sms, ["+100"], "Granted", .null⟩

def chores : List AfterJob :=
  [.syncRole site ⟨"ada", ["ada@a", "ada@b"], "reviewer", .add⟩, .notify site notice]

/-- The gateway that refuses to give a role to anybody. -/
def closedShop : Gateway := fun _ call =>
  match call with
  | .setMember .. => some (.notConfigured "role sync")
  | .send _ => none

/-- The gateway that does all that is asked for. -/
def openShop : Gateway := fun _ _ => none

/-- What became of the two jobs where roles are refused. -/
def refused : JobReport :=
  ⟨.syncRole site ⟨"ada", ["ada@a", "ada@b"], "reviewer", .add⟩,
    [.setMember .add "reviewer" "ada@a"], some (.notConfigured "role sync")⟩

def sent : JobReport := ⟨.notify site notice, [.send notice], none⟩

end Sample

/-- Where roles are refused, the first job fails at its first call and is recorded.  The message is
sent as it would be if the role had been given. -/
theorem Worker.run_isolates_sample :
    run Sample.closedShop [] Sample.chores = [Sample.refused, Sample.sent] ∧
    (∀ now log, [(now, Sample.refused), (now, Sample.sent)].foldl
        (fun log t => t.2.record t.1 log) log =
      log.next (.record ⟨now, Sample.site, .roleSyncFailed,
        "sync_role failed: no endpoint configured for role sync"⟩)) ∧
    run Sample.openShop [] [.notify Sample.site Sample.notice] = [Sample.sent] := by
  have hrun : run Sample.closedShop [] Sample.chores = [Sample.refused, Sample.sent] := by
    decide +kernel
  obtain ⟨-, -, hlog, halike⟩ := run_isolates Sample.closedShop [] Sample.chores
  refine ⟨hrun, fun now log => ?_, ?_⟩
  · exact (hlog [(now, Sample.refused), (now, Sample.sent)] hrun.symm log).1
  · have halone : run Sample.openShop [] [.notify Sample.site Sample.notice] =
        [] ++ handle Sample.openShop [] (.notify Sample.site Sample.notice) :: [] := rfl
    have hagree : Sample.closedShop.Agree ([] ++ [Sample.refused].flatMap JobReport.calls)
        Sample.openShop [] Sample.sent.job.calls :=
      Gateway.agree_cons.mpr ⟨rfl, eachCall_nil _⟩
    have hsame := halike [Sample.refused] Sample.sent [] _ [] _ [] _ [] hrun halone rfl hagree
    rw [halone, hsame]
    rfl

end Docket
