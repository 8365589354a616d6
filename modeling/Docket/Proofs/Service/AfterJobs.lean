import Docket.Proofs.Engine.Jobs
import Docket.Proofs.Service.Commits

/-! # After-jobs follow what is saved

A task hands the after-jobs of its pass to the queue one by one, and steps of other tasks may come
between any two of them.  It does so after it has saved and before it leaves its record, so the
jobs about one record come in the order in which its versions were saved.

* `Traffic.Served` says what is in the queue and what is still to come, and `Traffic.Moved.served`
  is its step.  A queue with little room only lets tasks wait for longer.
* `Traffic.jobs_follow` is the statement about all runs. -/

namespace Docket

/-! ### What goes through the queue -/

namespace Event

/-- The task that handed a job to the queue and the job, if that is what happened. -/
def sent? : Event → Option (ℕ × AfterJob)
  | .step n (.saved (job :: _) _) (.saved _ _) => some (n, job)
  | _ => none

/-- The job that the worker took, if that is what happened. -/
def taken? : Event → Option AfterJob
  | .took job => some job
  | _ => none

end Event

/-- The jobs about a record. -/
def AfterJob.about (id : Uuid) (jobs : List AfterJob) : List AfterJob :=
  jobs.filter fun job => job.site.recordId = some id

namespace Trace

variable {trace : Trace} {n m : ℕ} {id : Uuid} {event : Event} {job : AfterJob}

/-- What was handed to the queue, and by which task, in order. -/
def sends (trace : Trace) : List (ℕ × AfterJob) := trace.filterMap Event.sent?

def sent (trace : Trace) : List AfterJob := (sends trace).map Prod.snd

/-- The jobs that a task handed to the queue. -/
def sentBy (trace : Trace) (n : ℕ) : List AfterJob := byTask n (sends trace)

def taken (trace : Trace) : List AfterJob := trace.filterMap Event.taken?

/-- The after-jobs of what was saved of a record. -/
def jobsOf (trace : Trace) (id : Uuid) : List AfterJob :=
  (versions trace id).flatMap fun save => save.2.outcome.jobs

/-- Every job was handed over after what it came with was saved. -/
def InOrder (trace : Trace) : Prop :=
  ∀ earlier event later n job, trace = earlier ++ event :: later → event.sent? = some (n, job) →
    ∃ result ∈ savedBy earlier n, job ∈ result.outcome.jobs

theorem sends_concat (trace : Trace) (event : Event) :
    sends (trace ++ [event]) = sends trace ++ event.sent?.toList :=
  filterMap_concat Event.sent? trace event

theorem taken_concat (trace : Trace) (event : Event) :
    taken (trace ++ [event]) = taken trace ++ event.taken?.toList :=
  filterMap_concat Event.taken? trace event

theorem sent_of_none (h : event.sent? = none) : sent (trace ++ [event]) = sent trace := by
  unfold sent
  rw [sends_concat, h, Option.toList_none, List.append_nil]

theorem sent_of_some (h : event.sent? = some (n, job)) :
    sent (trace ++ [event]) = sent trace ++ [job] := by
  unfold sent
  rw [sends_concat, h, Option.toList_some, List.map_append]
  rfl

theorem sentBy_of_none (h : event.sent? = none) (n : ℕ) :
    sentBy (trace ++ [event]) n = sentBy trace n := by
  unfold sentBy
  rw [sends_concat, h, Option.toList_none, List.append_nil]

theorem sentBy_of_some (h : event.sent? = some (m, job)) (n : ℕ) :
    sentBy (trace ++ [event]) n = sentBy trace n ++ if m = n then [job] else [] := by
  unfold sentBy
  rw [sends_concat, h, Option.toList_some, byTask_concat]

theorem sentBy_step_of_ne {stage after : Stage} (h : m ≠ n) :
    sentBy (trace ++ [.step m stage after]) n = sentBy trace n := by
  cases hsent : Event.sent? (.step m stage after) with
  | none => rw [sentBy_of_none hsent]
  | some send =>
      obtain ⟨k, job⟩ := send
      have hk : k = m := by
        unfold Event.sent? at hsent
        split at hsent
        · next he =>
          cases he
          cases hsent
          rfl
        · cases hsent
      rw [sentBy_of_some hsent, hk, if_neg h, List.append_nil]

theorem jobsOf_of_none (h : event.save? = none) (id : Uuid) :
    jobsOf (trace ++ [event]) id = jobsOf trace id := by
  unfold jobsOf
  rw [versions_of_none h]

theorem jobsOf_of_some {result : Changed} (h : event.save? = some (m, result)) (id : Uuid) :
    jobsOf (trace ++ [event]) id =
      jobsOf trace id ++ if result.record.id = id then result.outcome.jobs else [] := by
  unfold jobsOf
  rw [versions_of_some h, List.flatMap_append]
  split
  · rw [List.flatMap_singleton]
  · rfl

theorem inOrder_nil : InOrder [] := by
  intro earlier event later n job h
  exact absurd h (by simp)

theorem InOrder.concat (h : InOrder trace) (hevent : ∀ n job, event.sent? = some (n, job) →
    ∃ result ∈ savedBy trace n, job ∈ result.outcome.jobs) : InOrder (trace ++ [event]) := by
  intro earlier other later n job heq hsent
  rcases List.eq_nil_or_concat later with rfl | ⟨rest, last, rfl⟩
  · obtain ⟨rfl, hlast⟩ := List.append_inj' heq rfl
    cases hlast
    exact hevent n job hsent
  · rw [List.concat_eq_append, ← List.cons_append, ← List.append_assoc] at heq
    obtain ⟨hinit, -⟩ := List.append_inj' heq rfl
    exact h earlier other rest n job hinit hsent

end Trace

namespace AfterJob

theorem about_append (id : Uuid) (jobs more : List AfterJob) :
    about id (jobs ++ more) = about id jobs ++ about id more := List.filter_append ..

theorem about_singleton (id : Uuid) (job : AfterJob) :
    about id [job] = if job.site.recordId = some id then [job] else [] := by
  unfold about
  by_cases h : job.site.recordId = some id <;> simp [h]

end AfterJob

theorem Stage.finished_of_rank {stage : Stage} (h : stage.rank = 0) :
    ∃ answer, stage = .finished answer := by
  cases stage with
  | finished answer => exact ⟨answer, rfl⟩
  | _ => cases h

theorem Stage.isIn?_of_unsent {stage : Stage} (h : stage.unsent ≠ []) :
    stage.isIn? = some true := by
  cases stage with
  | saved => rfl
  | _ => exact absurd rfl h

/-- What a step of a task does for the queue: it saves, or hands over a job, or does neither. -/
inductive Service.Handed (s : Service) : Stage → Service → Stage → Prop
  | saved {next : Service} (result : Changed) : next.queue = s.queue →
      Handed s (.passed result) next (.saved result.outcome.jobs result)
  | sent (job : AfterJob) (unsent : List AfterJob) (result : Changed) :
      Handed s (.saved (job :: unsent) result) (s.enqueue [job]) (.saved unsent result)
  | quiet {next : Service} {stage after : Stage} :
      (∀ n, Event.save? (.step n stage after) = none) →
      (∀ n, Event.sent? (.step n stage after) = none) →
      after.unsent = stage.unsent → after.stored? = stage.stored? → next.queue = s.queue →
      Handed s stage next after

theorem Service.Stepped.handed {s next : Service} {t : Task} {stage after : Stage}
    (h : s.Stepped t stage next after) : s.Handed stage next after := by
  cases h with
  | saved => exact .saved _ rfl
  | sent job unsent result => exact .sent job unsent result
  | _ => exact .quiet (fun _ => rfl) (fun _ => rfl) rfl rfl rfl

theorem Commit.Done.named {rs : Requests} {s : Service} {trace : Trace} {c : Commit}
    (h : c.Done rs s trace) :
    ∀ job ∈ c.result.outcome.jobs, job.site.recordId = some (rs.task c.task).recordId := by
  obtain ⟨world, reply, hpass, hanswer, -⟩ := h.pass
  rw [Task.pass_eq_operate] at hpass
  rw [← h.id_eq]
  exact Scene.operate_jobs (hpass ▸ hanswer)

namespace Traffic

variable {rs : Requests} {s : Service} {before : List AfterJob} {t u : Traffic} {n m : ℕ}
  {id : Uuid} {service : Service} {after : Stage}

/-- The jobs about a record that were handed over, and then those that a task still has, are the
jobs of what was saved of the record. -/
structure Matched (rs : Requests) (t : Traffic) : Prop where
  pending : ∀ n, (t.stage n).unsent ≠ [] →
    AfterJob.about (rs.task n).recordId t.trace.sent ++ (t.stage n).unsent =
      t.trace.jobsOf (rs.task n).recordId
  settled : ∀ id, (∀ n, (rs.task n).recordId = id → (t.stage n).unsent = []) →
    AfterJob.about id t.trace.sent = t.trace.jobsOf id

namespace Matched

/-- While a task is in, no other task has jobs about its record to hand over. -/
theorem unsent_other (hserves : t.service.locks.Serves (t.stays rs))
    (hn : (t.stage n).isIn? = some true) (hmn : m ≠ n)
    (hid : (rs.task m).recordId = (rs.task n).recordId) : (t.stage m).unsent = [] := by
  by_contra hne
  exact hmn (alone hserves (Stage.isIn?_of_unsent hne) hn hid)

theorem inside (h : t.Matched rs) (hserves : t.service.locks.Serves (t.stays rs))
    (hn : (t.stage n).isIn? = some true) :
    AfterJob.about (rs.task n).recordId t.trace.sent ++ (t.stage n).unsent =
      t.trace.jobsOf (rs.task n).recordId := by
  by_cases hne : (t.stage n).unsent = []
  · rw [hne, List.append_nil]
    refine h.settled _ fun m hm => ?_
    by_cases hmn : m = n
    · rw [hmn, hne]
    · exact unsent_other hserves hn hmn hm
  · exact h.pending n hne

/-- A step of a task that is in has to match for its record, and must not touch other records. -/
theorem advance (h : t.Matched rs) (hserves : t.service.locks.Serves (t.stays rs))
    (hn : (t.stage n).isIn? = some true)
    (hown : AfterJob.about (rs.task n).recordId (t.advance n service after).trace.sent ++
        after.unsent = (t.advance n service after).trace.jobsOf (rs.task n).recordId)
    (hother : ∀ id, (rs.task n).recordId ≠ id →
      AfterJob.about id (t.advance n service after).trace.sent = AfterJob.about id t.trace.sent ∧
        (t.advance n service after).trace.jobsOf id = t.trace.jobsOf id) :
    (t.advance n service after).Matched rs := by
  constructor
  · intro m hm
    by_cases hmn : m = n
    · rw [hmn, advance_self]
      exact hown
    · rw [advance_of_ne t hmn] at hm ⊢
      obtain ⟨habout, hjobs⟩ := hother (rs.task m).recordId fun he =>
        hm (unsent_other hserves hn hmn he.symm)
      rw [habout, hjobs]
      exact h.pending m hm
  · intro id hall
    by_cases hid : (rs.task n).recordId = id
    · have hrest := hall n hid
      rw [advance_self] at hrest
      rw [hrest, List.append_nil] at hown
      exact hid ▸ hown
    · rw [(hother id hid).1, (hother id hid).2]
      refine h.settled id fun m hm => ?_
      have hrest := hall m hm
      rwa [advance_of_ne t fun hmn : m = n => hid (hmn ▸ hm)] at hrest

end Matched

/-- The queue serves what is saved.  Every job that came is taken or waits, after those from the
beginning; a task hands over the jobs of what it saved, which name its record; and what is handed
over matches what is saved. -/
structure Served (rs : Requests) (before : List AfterJob) (t : Traffic) : Prop where
  queue : ∃ waiting, t.service.queue = some (.opened waiting) ∧
    t.trace.taken ++ waiting = before ++ t.trace.sent
  sentBy : ∀ n, t.trace.sentBy n ++ (t.stage n).unsent =
    (t.stage n).stored?.elim [] fun result => result.outcome.jobs
  named : ∀ n, ∀ job ∈ (t.stage n).unsent, job.site.recordId = some (rs.task n).recordId
  matched : t.Matched rs
  inOrder : t.trace.InOrder

theorem served_start (rs : Requests) (h : s.queue = some (.opened before)) :
    (start s).Served rs before where
  queue := ⟨before, h, (List.append_nil before).symm⟩
  sentBy _ := rfl
  named _ _ h := nomatch h
  matched := ⟨fun _ h => absurd rfl h, fun _ _ => rfl⟩
  inOrder := Trace.inOrder_nil

namespace Served

/-! What is in the queue and still to come after a step of the task `n`. -/

theorem queue_advance (h : t.Served rs before)
    (hstep : t.service.Stepped (rs.task n) (t.stage n) service after) :
    ∃ waiting, service.queue = some (.opened waiting) ∧
      (t.advance n service after).trace.taken ++ waiting =
        before ++ (t.advance n service after).trace.sent := by
  obtain ⟨waiting, hwaiting, hjobs⟩ := h.queue
  have hhanded := hstep.handed
  have htaken : (t.advance n service after).trace.taken = t.trace.taken := by
    rw [advance_trace, Trace.taken_concat]
    exact List.append_nil _
  rw [htaken, advance_trace]
  generalize t.stage n = stage at hhanded
  cases hhanded with
  | saved result hqueue =>
      rw [Trace.sent_of_none rfl]
      exact ⟨waiting, hqueue.trans hwaiting, hjobs⟩
  | sent job unsent result =>
      have hsent : Event.sent? (.step n (.saved (job :: unsent) result) (.saved unsent result)) =
          some (n, job) := rfl
      refine ⟨waiting ++ [job], ?_, ?_⟩
      · show t.service.queue.map _ = _
        rw [hwaiting]
        rfl
      · rw [Trace.sent_of_some hsent, ← List.append_assoc, hjobs, List.append_assoc]
  | quiet _ hsent _ _ hqueue =>
      rw [Trace.sent_of_none (hsent n)]
      exact ⟨waiting, hqueue.trans hwaiting, hjobs⟩

theorem sentBy_advance (h : t.Served rs before)
    (hstep : t.service.Stepped (rs.task n) (t.stage n) service after) (m : ℕ) :
    (t.advance n service after).trace.sentBy m ++ ((t.advance n service after).stage m).unsent =
      ((t.advance n service after).stage m).stored?.elim [] fun result => result.outcome.jobs := by
  have hm := h.sentBy m
  by_cases hmn : m = n
  · subst hmn
    have hhanded := hstep.handed
    rw [advance_self, advance_trace]
    generalize t.stage m = stage at hhanded hm
    cases hhanded with
    | saved result =>
        rw [Trace.sentBy_of_none rfl, (List.append_eq_nil_iff.mp hm).1]
        rfl
    | sent job unsent result =>
        have hsent : Event.sent? (.step m (.saved (job :: unsent) result) (.saved unsent result)) =
            some (m, job) := rfl
        rw [Trace.sentBy_of_some hsent, if_pos rfl, List.append_assoc]
        exact hm
    | quiet _ hsent hunsent hstored =>
        rw [Trace.sentBy_of_none (hsent m), hunsent, hstored]
        exact hm
  · rw [advance_of_ne t hmn, advance_trace, Trace.sentBy_step_of_ne (Ne.symm hmn)]
    exact hm

theorem named_advance (h : t.Served rs before) (hsound : t.Sound rs s)
    (hstep : t.service.Stepped (rs.task n) (t.stage n) service after) (m : ℕ) :
    ∀ job ∈ ((t.advance n service after).stage m).unsent,
      job.site.recordId = some (rs.task m).recordId := by
  by_cases hmn : m = n
  · subst hmn
    have hhanded := hstep.handed
    have hnamed := h.named m
    rw [advance_self]
    generalize hstage : t.stage m = stage at hhanded hnamed
    cases hhanded with
    | saved result =>
        obtain ⟨g, r, -, hdone⟩ := hsound.passed hstage
        exact hdone.named
    | sent => exact (List.forall_mem_cons.mp hnamed).2
    | quiet _ _ hunsent =>
        rw [hunsent]
        exact hnamed
  · rw [advance_of_ne t hmn]
    exact h.named m

theorem matched_advance (h : t.Served rs before) (hsound : t.Sound rs s)
    (hstep : t.service.Stepped (rs.task n) (t.stage n) service after) :
    (t.advance n service after).Matched rs := by
  have hhanded := hstep.handed
  generalize hstage : t.stage n = stage at hhanded
  cases hhanded with
  | saved result =>
      have hid := hsound.record_id hstage
      have hin : (t.stage n).isIn? = some true := by rw [hstage]; rfl
      have hown := h.matched.inside hsound.serves hin
      rw [hstage] at hown
      have hsave : Event.save? (.step n (.passed result) (.saved result.outcome.jobs result)) =
          some (n, result) := rfl
      refine h.matched.advance hsound.serves hin ?_ fun id hne => ?_
      · rw [advance_trace, hstage, Trace.sent_of_none rfl, Trace.jobsOf_of_some hsave, if_pos hid,
          ← hown]
        exact congrArg (· ++ result.outcome.jobs) (List.append_nil _).symm
      · rw [advance_trace, hstage, Trace.sent_of_none rfl, Trace.jobsOf_of_some hsave,
          if_neg (hid ▸ hne), List.append_nil]
        exact ⟨rfl, rfl⟩
  | sent job unsent result =>
      have hin : (t.stage n).isIn? = some true := by rw [hstage]; rfl
      have hown := h.matched.inside hsound.serves hin
      rw [hstage] at hown
      have hjob : job.site.recordId = some (rs.task n).recordId :=
        h.named n job (by rw [hstage]; exact List.mem_cons_self)
      have hsent : Event.sent? (.step n (.saved (job :: unsent) result) (.saved unsent result)) =
          some (n, job) := rfl
      refine h.matched.advance hsound.serves hin ?_ fun id hne => ?_
      · rw [advance_trace, hstage, Trace.sent_of_some hsent, Trace.jobsOf_of_none rfl,
          AfterJob.about_append, AfterJob.about_singleton, if_pos hjob, List.append_assoc]
        exact hown
      · rw [advance_trace, hstage, Trace.sent_of_some hsent, Trace.jobsOf_of_none rfl,
          AfterJob.about_append, AfterJob.about_singleton, if_neg, List.append_nil]
        · exact ⟨rfl, rfl⟩
        · exact fun he => hne (Option.some.inj (hjob.symm.trans he))
  | quiet hsave hsent hunsent =>
      have hstages : ∀ m, ((t.advance n service after).stage m).unsent = (t.stage m).unsent := by
        intro m
        by_cases hmn : m = n
        · rw [hmn, advance_self, hstage, hunsent]
        · rw [advance_of_ne t hmn]
      have hjobs : ∀ id, (t.advance n service after).trace.jobsOf id = t.trace.jobsOf id := by
        intro id
        rw [advance_trace, hstage, Trace.jobsOf_of_none (hsave n)]
      have hsame : (t.advance n service after).trace.sent = t.trace.sent := by
        rw [advance_trace, hstage, Trace.sent_of_none (hsent n)]
      refine ⟨fun m hm => ?_, fun id hall => ?_⟩
      · rw [hstages] at hm ⊢
        rw [hsame, hjobs]
        exact h.matched.pending m hm
      · rw [hsame, hjobs]
        exact h.matched.settled id fun m hm => hstages m ▸ hall m hm

theorem inOrder_advance (h : t.Served rs before) (hsound : t.Sound rs s)
    (hstep : t.service.Stepped (rs.task n) (t.stage n) service after) :
    (t.advance n service after).trace.InOrder := by
  have hhanded := hstep.handed
  generalize hstage : t.stage n = stage at hhanded
  rw [advance_trace, hstage]
  refine h.inOrder.concat fun m other hm => ?_
  cases hhanded with
  | saved => cases hm
  | sent job unsent result =>
      have hsentBy := h.sentBy n
      rw [hstage] at hsentBy
      replace hsentBy : t.trace.sentBy n ++ job :: unsent = result.outcome.jobs := hsentBy
      cases hm
      refine ⟨result, ?_, ?_⟩
      · rw [hsound.savedBy, hstage]
        exact List.mem_singleton_self result
      · rw [← hsentBy]
        exact List.mem_append_right _ List.mem_cons_self
  | quiet _ hsent =>
      rw [hsent] at hm
      cases hm

end Served

/-- **A turn keeps the queue in service.** -/
theorem Moved.served (hmoved : t.Moved rs u) (h : t.Served rs before) (hsound : t.Sound rs s) :
    u.Served rs before := by
  cases hmoved with
  | look hlook =>
      obtain ⟨⟨world, rfl⟩, -⟩ := hlook.cases
      exact ⟨h.queue, h.sentBy, h.named, ⟨h.matched.pending, h.matched.settled⟩, h.inOrder⟩
  | @took job service htake =>
      obtain ⟨rest, hqueue, rfl⟩ := Service.takeJob?_eq htake
      have hsent : Trace.sent (t.trace ++ [.took job]) = t.trace.sent := Trace.sent_of_none rfl
      refine ⟨⟨rest, rfl, ?_⟩, fun n => ?_, h.named, ⟨fun n hn => ?_, fun id hall => ?_⟩, ?_⟩
      · obtain ⟨waiting, hwaiting, hjobs⟩ := h.queue
        cases hqueue.symm.trans hwaiting
        rw [hsent, ← hjobs, Trace.taken_concat, List.append_assoc]
        rfl
      · rw [Trace.sentBy_of_none rfl]
        exact h.sentBy n
      · rw [hsent, Trace.jobsOf_of_none rfl]
        exact h.matched.pending n hn
      · rw [hsent, Trace.jobsOf_of_none rfl]
        exact h.matched.settled id hall
      · exact h.inOrder.concat fun n job hjob => nomatch hjob
  | task hstep =>
      exact ⟨h.queue_advance hstep, h.sentBy_advance hstep, h.named_advance hsound hstep,
        h.matched_advance hsound hstep, h.inOrder_advance hsound hstep⟩

theorem served_after? {turns : List Turn} (hlocks : s.locks = .empty)
    (hqueue : s.queue = some (.opened before)) (h : (start s).after? rs turns = some t) :
    t.Sound rs s ∧ t.Served rs before :=
  holds_after? (P := fun t => t.Sound rs s ∧ t.Served rs before)
    ⟨sound_start rs hlocks, served_start rs hqueue⟩
    (fun hmoved h => ⟨hmoved.sound h.1, hmoved.served h.2 h.1⟩) h

theorem Served.about_isPrefix (h : t.Served rs before) (id : Uuid) :
    AfterJob.about id t.trace.sent <+: t.trace.jobsOf id := by
  by_cases hall : ∀ n, (rs.task n).recordId = id → (t.stage n).unsent = []
  · rw [h.matched.settled id hall]
  · obtain ⟨n, hn⟩ := not_forall.mp hall
    obtain ⟨rfl, hne⟩ := Classical.not_imp.mp hn
    rw [← h.matched.pending n hne]
    exact List.prefix_append ..

/-- **After-jobs follow what is saved.**  Let any requests work with a service that nobody works
with yet and that has an open queue, in any order of their steps and of those of the worker.

* Jobs are taken and wait in the order in which they were handed over, after those from the
  beginning.
* Before a task hands over a job, it has saved what its pass with that job came to.
* A request that failed has handed over nothing, and one that succeeded all jobs of its pass in
  order.
* The jobs about a record that were handed over are the first of the jobs of its versions in the
  order in which those were saved; and as soon as nobody works on the record any more, they are all
  of them, and the versions are those of the requests that succeeded. -/
theorem jobs_follow {turns : List Turn} (hlocks : s.locks = .empty)
    (hqueue : s.queue = some (.opened before)) (h : (start s).after? rs turns = some t) :
    (∃ waiting, t.service.queue = some (.opened waiting) ∧
      t.trace.taken ++ waiting = before ++ t.trace.sent) ∧
    (∀ earlier event later n job, t.trace = earlier ++ event :: later →
      event.sent? = some (n, job) →
        ∃ result ∈ Trace.savedBy earlier n, job ∈ result.outcome.jobs) ∧
    (∀ n e, t.stage n = .finished (.error e) → t.trace.sentBy n = []) ∧
    (∀ n result, t.stage n = .finished (.ok result) → t.trace.sentBy n = result.outcome.jobs) ∧
    (∀ id, AfterJob.about id t.trace.sent <+: t.trace.jobsOf id) ∧
    ∀ id, (∀ n, (rs.task n).recordId = id →
        t.stage n = .begun ∨ ∃ answer, t.stage n = .finished answer) →
      AfterJob.about id t.trace.sent = t.trace.jobsOf id ∧
      ∀ n result, (n, result) ∈ t.trace.versions id ↔
        (rs.task n).recordId = id ∧ t.stage n = .finished (.ok result) := by
  obtain ⟨hsound, hserved⟩ := served_after? hlocks hqueue h
  refine ⟨hserved.queue, hserved.inOrder, fun n e hn => ?_, fun n result hn => ?_,
    hserved.about_isPrefix, fun id hall => ⟨hserved.matched.settled id fun n hn => ?_,
      fun n result => ?_⟩⟩
  · have hsentBy := hserved.sentBy n
    rw [hn] at hsentBy
    exact (List.append_eq_nil_iff.mp hsentBy).1
  · have hsentBy := hserved.sentBy n
    rw [hn] at hsentBy
    exact (List.append_nil _).symm.trans hsentBy
  · rcases hall n hn with hstage | ⟨answer, hstage⟩
    · rw [hstage]
      rfl
    · rw [hstage]
      rfl
  · rw [hsound.mem_versions]
    refine and_congr_right fun hn => ⟨fun hstored => ?_, fun hstage => by rw [hstage]; rfl⟩
    rcases hall n hn with hstage | ⟨e | found, hstage⟩
    · rw [hstage] at hstored
      cases hstored
    · rw [hstage] at hstored
      cases hstored
    · rw [hstage] at hstored
      cases hstored
      exact hstage

/-- The first two tasks on the request have the same call made, the first call is on its way, and
the other one waits. -/
theorem jobs_follow_sample :
    ∃ t, (start Sample.service).after? Sample.requests Sample.turns = some t ∧
      t.trace.sends.map Prod.fst = [0, 3] ∧ t.trace.taken.length = 1 ∧
      (∃ waiting, t.service.queue = some (.opened waiting) ∧
        t.trace.taken ++ waiting = t.trace.sent) ∧
      AfterJob.about .nil t.trace.sent = t.trace.jobsOf .nil := by
  have hrun : ((start Sample.service).after? Sample.requests Sample.turns).map (fun t =>
      (t.trace.sends.map Prod.fst, t.trace.taken.length, [0, 1, 3].map fun n => (t.stage n).rank)) =
      some ([0, 3], 1, [0, 0, 0]) := by decide +kernel
  obtain ⟨t, ht, hfound⟩ := Option.map_eq_some_iff.mp hrun
  obtain ⟨hsends, hrest⟩ := Prod.mk.inj hfound
  obtain ⟨htaken, hranks⟩ := Prod.mk.inj hrest
  obtain ⟨hqueue, -, -, -, -, hsettled⟩ := jobs_follow rfl rfl ht
  refine ⟨t, ht, hsends, htaken, hqueue, (hsettled .nil fun n hn => ?_).1⟩
  by_cases hcame : .task n ∈ Sample.turns
  · -- all that came have finished, and task 2 works on another record
    have hrank : n = 2 ∨ (t.stage n).rank = 0 := by
      simp only [List.map_cons, List.map_nil, List.cons.injEq, and_true] at hranks
      obtain ⟨hzero, hone, hthree⟩ := hranks
      have hn : n = 0 ∨ n = 1 ∨ n = 2 ∨ n = 3 := by
        simp only [Sample.turns, List.mem_cons, Turn.task.injEq, reduceCtorEq, List.not_mem_nil,
          false_or, or_false] at hcame
        omega
      rcases hn with rfl | rfl | rfl | rfl
      · exact Or.inr hzero
      · exact Or.inr hone
      · exact Or.inl rfl
      · exact Or.inr hthree
    rcases hrank with rfl | hrank
    · exact absurd hn (by decide)
    · exact Or.inr (Stage.finished_of_rank hrank)
  · exact Or.inl (begun_of_not_mem hcame ht)

end Traffic
end Docket
