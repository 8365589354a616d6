import Docket.Proofs.Engine.Relational
import Docket.Proofs.Failure

/-! # What becomes of notices

A notice is sent at once, and the notifier answers to it, or it is left for later as a job.  Neither
decides about anything else that a pass does.

* `Notifier.answers` lists what a notifier answers to calls one after the other, and
  `Notifier.refusals` counts the answers that are errors.  Each of them is one failure of the pass.
* `Pass.Deferred` relates a pass that leaves notices for later to the pass that has sent them, and
  `Scene.operate_deferred` says of operations what the two have in common.
* `Pass.Answered` relates passes whose notices were answered by different notifiers, and
  `Scene.operate_answered` says that operations differ in nothing but the failures to notify. -/

namespace Docket

open FailureLog (AlikeBut)

/-! ### Answers -/

namespace Notifier

/-- What a notifier answers to calls one after the other, after earlier calls. -/
def answers (n : Notifier) : List Notice → List Notice → List (Option NotifyError)
  | _, [] => []
  | sent, call :: rest => n sent call :: answers n (sent ++ [call]) rest

/-- How many calls a notifier refuses. -/
def refusals (n : Notifier) (sent calls : List Notice) : ℕ :=
  (answers n sent calls).countP Option.isSome

variable (n : Notifier)

theorem answers_concat (sent calls : List Notice) (call : Notice) :
    n.answers sent (calls ++ [call]) = n.answers sent calls ++ [n (sent ++ calls) call] := by
  induction calls generalizing sent with
  | nil => simp [answers]
  | cons c rest ih => simp [answers, ih]

theorem refusals_concat (sent calls : List Notice) (call : Notice) :
    n.refusals sent (calls ++ [call]) =
      n.refusals sent calls + if (n (sent ++ calls) call).isSome then 1 else 0 := by
  unfold refusals
  rw [answers_concat, List.countP_append, List.countP_singleton]

theorem refusals_eq_zero {sent calls : List Notice} (h : ∀ a ∈ n.answers sent calls, a = none) :
    n.refusals sent calls = 0 := by
  unfold refusals
  rw [List.countP_eq_zero]
  intro a ha
  rw [h a ha]
  simp

theorem answers_accepting (sent calls : List Notice) :
    ∀ a ∈ accepting.answers sent calls, a = none := by
  induction calls generalizing sent with
  | nil => simp [answers]
  | cons call rest ih => simpa [answers, accepting] using ih _

theorem refusals_accepting (sent calls : List Notice) : accepting.refusals sent calls = 0 :=
  refusals_eq_zero _ (answers_accepting sent calls)

theorem refusals_refusing (e : NotifyError) (sent calls : List Notice) :
    (refusing e).refusals sent calls = calls.length := by
  unfold refusals
  induction calls generalizing sent with
  | nil => rfl
  | cons call rest ih => rw [answers, List.countP_cons, ih]; rfl

end Notifier

namespace AfterJob

/-- The notice that a job sends. -/
def notice? : AfterJob → Option Notice
  | notify _ notice => some notice
  | syncRole .. => none

/-- Whether a job concerns the identity provider. -/
def isSync : AfterJob → Bool
  | syncRole .. => true
  | notify .. => false

def notices (jobs : List AfterJob) : List Notice := jobs.filterMap notice?

variable (jobs : List AfterJob) (site : FailureSite)

theorem notices_notify (notice : Notice) :
    notices (jobs ++ [notify site notice]) = notices jobs ++ [notice] := by
  simp [notices, notice?]

theorem notices_syncRole (sync : RoleSync) :
    notices (jobs ++ [syncRole site sync]) = notices jobs := by
  simp [notices, notice?]

theorem filter_notify (notice : Notice) :
    (jobs ++ [notify site notice]).filter isSync = jobs.filter isSync := by
  simp [isSync]

theorem filter_syncRole (sync : RoleSync) :
    (jobs ++ [syncRole site sync]).filter isSync = jobs.filter isSync ++ [syncRole site sync] := by
  simp [isSync]

end AfterJob

/-! ### What delivering a notice does -/

namespace Scene

/-- The pass after a notice was left for later. -/
def keep (s : Scene) (item : Item) (notice : Notice) (p : Pass) : Pass :=
  { p with jobs := p.jobs ++ [.notify (s.site p item) notice] }

/-- The pass after a notice was sent and answered to. -/
def send (s : Scene) (n : Notifier) (item : Item) (notice : Notice) (p : Pass) : Pass :=
  let q := { p with world := { p.world with sent := p.world.sent ++ [notice] } }
  match n p.world.sent notice with
  | some e => s.fail item .notifyFailed e.message q
  | none => q

variable (s : Scene) (n : Notifier) (item : Item) (notice : Notice) (p : Pass)

theorem keep_alike : p.AlikeButEffects (s.keep item notice p) := ⟨rfl, rfl, rfl, rfl⟩

theorem send_alike : p.AlikeButEffects (s.send n item notice p) := by
  unfold send
  cases n p.world.sent notice <;> exact ⟨rfl, rfl, rfl, rfl⟩

theorem send_jobs : (s.send n item notice p).jobs = p.jobs := by
  unfold send
  cases n p.world.sent notice <;> rfl

theorem send_sent : (s.send n item notice p).world.sent = p.world.sent ++ [notice] := by
  unfold send
  cases n p.world.sent notice <;> rfl

theorem send_failures : (s.send n item notice p).failures =
    p.failures + if (n p.world.sent notice).isSome then 1 else 0 := by
  unfold send
  cases n p.world.sent notice <;> rfl

theorem send_log : AlikeBut .notifyFailed p.world.log (s.send n item notice p).world.log := by
  unfold send
  cases n p.world.sent notice with
  | none => exact .refl _ _
  | some e => exact .record_self _ _ _ _ _

end Scene

theorem Pass.AlikeButEffects.site_eq {p q : Pass} (h : p.AlikeButEffects q) (s : Scene)
    (item : Item) : s.site q item = s.site p item := by
  unfold Scene.site
  rw [h.record]

/-- Passes whose logs differ in failures to notify at most still do when both record a failure. -/
theorem Pass.AlikeButEffects.alikeBut_fail {p q : Pass} (h : p.AlikeButEffects q)
    (hlog : AlikeBut .notifyFailed p.world.log q.world.log) (s : Scene) (item : Item)
    (kind : FailureKind) (cause : String) : AlikeBut .notifyFailed
      (s.fail item kind cause p).world.log (s.fail item kind cause q).world.log := by
  unfold Scene.fail
  rw [h.site_eq s item]
  exact hlog.record _ _ _ _

/-! ### Notices that are left for later -/

/-- `q` has left for later what `p` has sent since the world was `w`. -/
structure Pass.Deferred (n : Notifier) (w : World) (p q : Pass) : Prop where
  alike : p.AlikeButEffects q
  log : AlikeBut .notifyFailed p.world.log q.world.log
  silent : q.world.sent = w.sent
  sent : p.world.sent = w.sent ++ AfterJob.notices q.jobs
  failures : p.failures = q.failures + n.refusals w.sent (AfterJob.notices q.jobs)
  syncs : p.jobs = q.jobs.filter AfterJob.isSync

namespace Pass.Deferred

variable {s : Scene} {n : Notifier} {w : World} {p q : Pass}

theorem start (n : Notifier) (record : Record) (w : World) :
    Deferred n w (Pass.start record w) (Pass.start record w) where
  alike := ⟨rfl, rfl, rfl, rfl⟩
  log := .refl _ _
  silent := rfl
  sent := (List.append_nil _).symm
  failures := rfl
  syncs := rfl

theorem fail (h : Deferred n w p q) (item : Item) (kind : FailureKind) (cause : String) :
    Deferred n w (s.fail item kind cause p) (s.fail item kind cause q) where
  alike := ⟨h.alike.record, h.alike.directory, h.alike.hops, h.alike.ending⟩
  log := h.alike.alikeBut_fail h.log s item kind cause
  silent := h.silent
  sent := h.sent
  failures := (congrArg (· + 1) h.failures).trans (Nat.add_right_comm _ _ 1)
  syncs := h.syncs

/-- What one pass sends, the other leaves for later. -/
theorem deliver (h : Deferred n w p q) (item : Item) (notice : Notice) :
    Deferred n w (s.send n item notice p) (s.keep item notice q) := by
  have hnotices : AfterJob.notices (s.keep item notice q).jobs =
      AfterJob.notices q.jobs ++ [notice] := AfterJob.notices_notify _ _ _
  have hsyncs : (s.keep item notice q).jobs.filter AfterJob.isSync =
      q.jobs.filter AfterJob.isSync := AfterJob.filter_notify _ _ _
  exact
    { alike := ((s.send_alike n item notice p).symm.trans h.alike).trans (s.keep_alike item notice q)
      log := (s.send_log n item notice p).symm.trans h.log
      silent := h.silent
      sent := by rw [Scene.send_sent, h.sent, hnotices, List.append_assoc]
      failures := by
        rw [Scene.send_failures, hnotices, Notifier.refusals_concat, ← h.sent, h.failures]
        exact Nat.add_assoc _ _ _
      syncs := by rw [Scene.send_jobs, hsyncs, h.syncs] }

theorem sync (h : Deferred n w p q) (item : Item) (sync : RoleSync) :
    Deferred n w { p with jobs := p.jobs ++ [.syncRole (s.site p item) sync] }
      { q with jobs := q.jobs ++ [.syncRole (s.site q item) sync] } where
  alike := ⟨h.alike.record, h.alike.directory, h.alike.hops, h.alike.ending⟩
  log := h.log
  silent := h.silent
  sent := by rw [AfterJob.notices_syncRole]; exact h.sent
  failures := by rw [AfterJob.notices_syncRole]; exact h.failures
  syncs := by rw [AfterJob.filter_syncRole, h.alike.site_eq s item, h.syncs]

theorem effectsKeep (s : Scene) (n : Notifier) (w : World) :
    (s.delivering n false).EffectsKeep n true (Deferred n w) where
  alike h := h.alike
  onward h hp hq halike :=
    { alike := halike
      log := by rw [hp.log, hq.log]; exact h.log
      silent := by rw [hq.sent, h.silent]
      sent := by rw [hp.sent, hq.jobs, h.sent]
      failures := by rw [hp.failures, hq.failures, hq.jobs, h.failures]
      syncs := by rw [hp.jobs, hq.jobs, h.syncs] }
  fail item kind cause h := h.fail item kind cause
  deliver item notice h := h.deliver item notice
  sync item sync h := h.sync item sync

end Pass.Deferred

/-! ### Notices that are answered by others -/

/-- `q` has come as far as `p` since the world was `w`, but another notifier has answered to it. -/
structure Pass.Answered (n n' : Notifier) (w : World) (p q : Pass) : Prop where
  alike : p.AlikeButEffects q
  log : AlikeBut .notifyFailed p.world.log q.world.log
  jobs : q.jobs = p.jobs
  calls : ∃ calls, p.world.sent = w.sent ++ calls ∧ q.world.sent = w.sent ++ calls ∧
    q.failures + n.refusals w.sent calls = p.failures + n'.refusals w.sent calls

namespace Pass.Answered

variable {s : Scene} {n n' : Notifier} {w : World} {p q : Pass}

theorem start (n n' : Notifier) (record : Record) (w : World) :
    Answered n n' w (Pass.start record w) (Pass.start record w) where
  alike := ⟨rfl, rfl, rfl, rfl⟩
  log := .refl _ _
  jobs := rfl
  calls := ⟨[], (List.append_nil _).symm, (List.append_nil _).symm, rfl⟩

theorem fail (h : Answered n n' w p q) (item : Item) (kind : FailureKind) (cause : String) :
    Answered n n' w (s.fail item kind cause p) (s.fail item kind cause q) := by
  obtain ⟨calls, hsent, hsent', hfailures⟩ := h.calls
  have hmore : q.failures + 1 + n.refusals w.sent calls =
      p.failures + 1 + n'.refusals w.sent calls := by omega
  exact
    { alike := ⟨h.alike.record, h.alike.directory, h.alike.hops, h.alike.ending⟩
      log := h.alike.alikeBut_fail h.log s item kind cause
      jobs := h.jobs
      calls := ⟨calls, hsent, hsent', hmore⟩ }

theorem keep (h : Answered n n' w p q) (item : Item) (notice : Notice) :
    Answered n n' w (s.keep item notice p) (s.keep item notice q) where
  alike := ((s.keep_alike item notice p).symm.trans h.alike).trans (s.keep_alike item notice q)
  log := h.log
  jobs := by unfold Scene.keep; rw [h.alike.site_eq s item, h.jobs]
  calls := h.calls

/-- Both passes send the same notice, whatever is answered to it. -/
theorem send (h : Answered n n' w p q) (item : Item) (notice : Notice) :
    Answered n n' w (s.send n item notice p) (s.send n' item notice q) := by
  obtain ⟨calls, hsent, hsent', hfailures⟩ := h.calls
  refine
    { alike := ((s.send_alike n item notice p).symm.trans h.alike).trans
        (s.send_alike n' item notice q)
      log := ((s.send_log n item notice p).symm.trans h.log).trans (s.send_log n' item notice q)
      jobs := by rw [Scene.send_jobs, Scene.send_jobs, h.jobs]
      calls := ⟨calls ++ [notice], ?_, ?_, ?_⟩ }
  · rw [Scene.send_sent, hsent, List.append_assoc]
  · rw [Scene.send_sent, hsent', List.append_assoc]
  · rw [Scene.send_failures, Scene.send_failures, Notifier.refusals_concat, Notifier.refusals_concat,
      hsent, hsent']
    omega

theorem sync (h : Answered n n' w p q) (item : Item) (sync : RoleSync) :
    Answered n n' w { p with jobs := p.jobs ++ [.syncRole (s.site p item) sync] }
      { q with jobs := q.jobs ++ [.syncRole (s.site q item) sync] } where
  alike := ⟨h.alike.record, h.alike.directory, h.alike.hops, h.alike.ending⟩
  log := h.log
  jobs := by rw [h.alike.site_eq s item, h.jobs]
  calls := h.calls

theorem effectsKeep (s : Scene) (n n' : Notifier) (deferred : Bool) (w : World) :
    (s.delivering n deferred).EffectsKeep n' deferred (Answered n n' w) where
  alike h := h.alike
  onward h hp hq halike :=
    { alike := halike
      log := by rw [hp.log, hq.log]; exact h.log
      jobs := by rw [hp.jobs, hq.jobs, h.jobs]
      calls := by rw [hp.sent, hq.sent, hp.failures, hq.failures]; exact h.calls }
  fail item kind cause h := h.fail item kind cause
  deliver item notice h := by
    cases deferred with
    | true => exact h.keep item notice
    | false => exact h.send item notice
  sync item sync h := h.sync item sync

end Pass.Answered

namespace Scene

/-! ### Operations -/

/-- **Leaving notices for later changes when they are sent, and nothing else.**  An operation comes
to the same record and directory and is refused for the same reason, and the logs differ in failures
to notify at most.  If it is done, its jobs carry the notices that would have been sent, in order,
and besides them the jobs that it would have left. -/
theorem operate_deferred (s : Scene) (n : Notifier) (op : Operation) (record : Record)
    (world : World) :
    ((s.delivering n true).operate op record world).record =
      ((s.delivering n false).operate op record world).record ∧
    ((s.delivering n true).operate op record world).world.directory =
      ((s.delivering n false).operate op record world).world.directory ∧
    ((s.delivering n true).operate op record world).world.sent = world.sent ∧
    AlikeBut .notifyFailed ((s.delivering n false).operate op record world).world.log
      ((s.delivering n true).operate op record world).world.log ∧
    (∀ e, ((s.delivering n true).operate op record world).answer = .error e ↔
      ((s.delivering n false).operate op record world).answer = .error e) ∧
    ∀ outcome, ((s.delivering n false).operate op record world).answer = .ok outcome →
      ∃ later, ((s.delivering n true).operate op record world).answer = .ok later ∧
        later.status = outcome.status ∧ later.state = outcome.state ∧ later.hops = outcome.hops ∧
        ((s.delivering n false).operate op record world).world.sent =
          world.sent ++ AfterJob.notices later.jobs ∧
        outcome.jobs = later.jobs.filter AfterJob.isSync ∧
        outcome.failures =
          later.failures + n.refusals world.sent (AfterJob.notices later.jobs) ∧
        ((∀ answer ∈ n.answers world.sent (AfterJob.notices later.jobs), answer = none) →
          later.failures = outcome.failures) := by
  have h : SameAnswer (Pass.Deferred n world) ((s.delivering n false).operate op record world)
      ((s.delivering n true).operate op record world) :=
    operate_sameAnswer (Pass.Deferred.effectsKeep s n world) (.start n record world) op
  generalize (s.delivering n false).operate op record world = reply at h
  generalize (s.delivering n true).operate op record world = reply' at h
  cases h with
  | refused e h =>
      exact ⟨h.alike.record, h.alike.directory, h.silent, h.log, fun _ => Iff.rfl,
        fun _ hok => by cases hok⟩
  | @finished p q a h =>
      refine ⟨h.alike.record, h.alike.directory, h.silent, h.log, ?_⟩
      cases a with
      | error e => exact ⟨fun _ => Iff.rfl, fun _ hok => by cases hok⟩
      | ok _ =>
          refine ⟨fun e => ⟨fun he => (by cases he), fun he => (by cases he)⟩, fun outcome hok => ?_⟩
          cases hok
          refine ⟨q.outcome, rfl, congrArg Record.status h.alike.record,
            congrArg (·.getD .waiting) h.alike.ending, h.alike.hops, h.sent, h.syncs, h.failures,
            fun haccepted => ?_⟩
          have hnone : n.refusals world.sent (AfterJob.notices q.jobs) = 0 :=
            n.refusals_eq_zero haccepted
          have hfailures := h.failures
          rw [hnone] at hfailures
          exact hfailures.symm

end Scene

namespace Sample

/-- A request is announced by telephone, its submitter becomes a clerk, and the clerks are told. -/
def announcing : Workflow where
  id := "request"
  name := "Request"
  initial := "draft"
  statuses := [
    ⟨"draft", "Draft", [item "announce" (.notify ⟨.sms, "123", "A request", none⟩),
      item "hire" (.changeRole .add ⟨"clerk", .propagate⟩),
      item "forward" (.jump ⟨"open", false, .immediate⟩)], false⟩,
    ⟨"open", "Open", [item "tell" (.notify ⟨.webservice, "clerk", "It is open", none⟩)], false⟩]
  functions := ∅
  globalActions := []

theorem announcing_check : announcing.check .default = .ok () := by decide +kernel

def bureau : Scene :=
  ⟨.ofSettings .default .accepting, ⟨.default, announcing, announcing_check⟩,
    ⟨none, .automatic, now, ∅⟩⟩

def announced : Record := .create announcing .nil now ∅ (some "ada")

def hired : AfterJob :=
  .syncRole ⟨"request", some "draft", some "hire", some .nil⟩ ⟨"ada", ["n-1"], "r-1", .add⟩

def staff : World where
  directory := ⟨[⟨"r-1", "Clerk", "clerk"⟩],
    Keyed.empty.insert ⟨"ada", "Ada", none, none, ["n-1"], ∅, true, false⟩⟩
  log := .empty
  sent := []

end Sample

namespace Scene

/-- The announcement and what the clerks are told are sent, or left for later. -/
theorem operate_deferred_sample :
    ∃ later, ((Sample.bureau.delivering .accepting true).operate .run Sample.announced
        Sample.staff).answer = .ok later ∧
      later.status = "open" ∧ later.hops = 1 ∧ later.failures = 0 ∧
      later.jobs.filter AfterJob.isSync = [Sample.hired] ∧
      ((Sample.bureau.delivering .accepting false).operate .run Sample.announced
        Sample.staff).world.sent = AfterJob.notices later.jobs := by
  have hok : ((Sample.bureau.delivering .accepting false).operate .run Sample.announced
      Sample.staff).answer = .ok ⟨"open", .waiting, 1, 0, [Sample.hired]⟩ := by decide +kernel
  obtain ⟨-, -, -, -, -, h⟩ :=
    operate_deferred Sample.bureau .accepting .run Sample.announced Sample.staff
  obtain ⟨later, hlater, hstatus, -, hhops, hsent, hjobs, -, hfailures⟩ := h _ hok
  exact ⟨later, hlater, hstatus, hhops, hfailures (Notifier.answers_accepting _ _), hjobs.symm,
    hsent⟩

/-- **What is answered to notices decides about nothing.**  Whoever answers, an operation makes the
same calls, comes to the same record and directory and answers the same, but for the number of
failures, which differs by the number of calls refused.  The logs differ in failures to notify at
most. -/
theorem operate_answered (s : Scene) (n n' : Notifier) (deferred : Bool) (op : Operation)
    (record : Record) (world : World) :
    ((s.delivering n' deferred).operate op record world).record =
      ((s.delivering n deferred).operate op record world).record ∧
    ((s.delivering n' deferred).operate op record world).world.directory =
      ((s.delivering n deferred).operate op record world).world.directory ∧
    AlikeBut .notifyFailed ((s.delivering n deferred).operate op record world).world.log
      ((s.delivering n' deferred).operate op record world).world.log ∧
    ∃ calls failures,
      ((s.delivering n deferred).operate op record world).world.sent = world.sent ++ calls ∧
      ((s.delivering n' deferred).operate op record world).world.sent = world.sent ++ calls ∧
      ((s.delivering n' deferred).operate op record world).answer =
        ((s.delivering n deferred).operate op record world).answer.map
          (fun outcome => { outcome with failures := failures }) ∧
      ∀ outcome, ((s.delivering n deferred).operate op record world).answer = .ok outcome →
        failures + n.refusals world.sent calls =
          outcome.failures + n'.refusals world.sent calls := by
  have h : SameAnswer (Pass.Answered n n' world)
      ((s.delivering n deferred).operate op record world)
      ((s.delivering n' deferred).operate op record world) :=
    operate_sameAnswer (Pass.Answered.effectsKeep s n n' deferred world) (.start n n' record world) op
  generalize (s.delivering n deferred).operate op record world = reply at h
  generalize (s.delivering n' deferred).operate op record world = reply' at h
  cases h with
  | @refused p q e h =>
      obtain ⟨calls, hsent, hsent', -⟩ := h.calls
      exact ⟨h.alike.record, h.alike.directory, h.log, calls, 0, hsent, hsent', rfl,
        fun _ hok => by cases hok⟩
  | @finished p q a h =>
      obtain ⟨calls, hsent, hsent', hfailures⟩ := h.calls
      refine ⟨h.alike.record, h.alike.directory, h.log, calls, q.failures, hsent, hsent', ?_⟩
      cases a with
      | error e => exact ⟨rfl, fun _ hok => by cases hok⟩
      | ok _ =>
          have houtcome : q.outcome = { p.outcome with failures := q.failures } := by
            unfold Pass.outcome
            rw [h.alike.record, h.alike.ending, h.alike.hops, h.jobs]
          refine ⟨congrArg Except.ok houtcome, fun outcome hok => ?_⟩
          cases hok
          exact hfailures

/-- A notifier that refuses everything makes a failure of each of the two calls. -/
theorem operate_answered_sample :
    ∃ calls, ((Sample.bureau.delivering (.refusing .noRecipients) false).operate .run
        Sample.announced Sample.staff).world.sent = [] ++ calls ∧
      ((Sample.bureau.delivering .accepting false).operate .run Sample.announced
        Sample.staff).world.sent = [] ++ calls ∧ calls.length = 2 ∧
      ((Sample.bureau.delivering (.refusing .noRecipients) false).operate .run Sample.announced
        Sample.staff).answer = .ok ⟨"open", .waiting, 1, 2, [Sample.hired]⟩ := by
  have hok : ((Sample.bureau.delivering .accepting false).operate .run Sample.announced
      Sample.staff).answer = .ok ⟨"open", .waiting, 1, 0, [Sample.hired]⟩ := by decide +kernel
  have hlength : ((Sample.bureau.delivering .accepting false).operate .run Sample.announced
      Sample.staff).world.sent.length = 2 := by decide +kernel
  obtain ⟨-, -, -, calls, failures, hsent, hsent', hanswer, hfailures⟩ :=
    operate_answered Sample.bureau .accepting (.refusing .noRecipients) false .run
      Sample.announced Sample.staff
  have hcalls : calls.length = 2 := by
    rw [hsent] at hlength
    exact hlength
  have htwo : failures = 2 := by
    have h := hfailures _ hok
    rw [Notifier.refusals_accepting, Notifier.refusals_refusing, hcalls] at h
    omega
  rw [hok, htwo] at hanswer
  exact ⟨calls, hsent', hsent, hcalls, hanswer⟩

end Scene
end Docket
