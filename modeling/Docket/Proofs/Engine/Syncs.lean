import Docket.Proofs.Engine.Membership

/-! # Changes of roles that are passed on

Where all items that change roles pass their changes on, the identity provider can follow: whoever
does what the jobs of an operation say, one after the other, comes from the roles that the submitter
had to the roles that the submitter has.

* `RoleSync.replay` does the changes of a list one after the other.
* `Pass.Mirrors` says that the jobs of a pass replay to the roles of its submitter.  One change of a
  role keeps it (`Scene.performRole_mirrors`): a change that the directory refuses leaves no job, and
  one that makes no difference leaves a job that makes none either.
* `Scene.operate_mirrored` is the statement about operations. -/

namespace Docket

open Expression (Variables)

/-- The roles of a user after changes one after the other. -/
def RoleSync.replay (syncs : List RoleSync) (roles : NameSet) : NameSet :=
  syncs.foldl (fun roles sync => sync.operation.on sync.roleId roles) roles

theorem RoleSync.replay_concat (syncs : List RoleSync) (sync : RoleSync) (roles : NameSet) :
    replay (syncs ++ [sync]) roles = sync.operation.on sync.roleId (replay syncs roles) := by
  unfold replay
  rw [List.foldl_append]
  rfl

theorem AfterJob.syncs_syncRole (jobs : List AfterJob) (site : FailureSite) (sync : RoleSync) :
    syncs (jobs ++ [syncRole site sync]) = syncs jobs ++ [sync] := by
  simp [syncs, sync?]

/-- The jobs of the pass replay to the roles that its submitter has, from those of `u`, and they name
the submitter and all identifiers of `u` at the identity provider. -/
structure Pass.Mirrors (user : String) (u : User) (p : Pass) : Prop where
  submitter : p.record.submitter = some user
  replayed : p.world.directory.user? user =
    some { u with roles := RoleSync.replay (AfterJob.syncs p.jobs) u.roles }
  named : ∀ sync ∈ AfterJob.syncs p.jobs, sync.userId = user ∧ sync.nameIds = u.nameIds

theorem Pass.Mirrors.sameRoles {user : String} {u : User} {p q : Pass} (h : p.Mirrors user u)
    (hsame : p.SameRoles q) : q.Mirrors user u where
  submitter := hsame.submitter.trans h.submitter
  replayed := by
    rw [hsame.directory, hsame.syncs]
    exact h.replayed
  named := by
    rw [hsame.syncs]
    exact h.named

namespace Scene

variable {s : Scene} {vars : Variables} {item : Item} {p : Pass} {op : Operation} {record : Record}
  {world : World} {user : String} {u : User} {operation : RoleOperation}

/-- **A change of a role leaves a job exactly where it is made.** -/
theorem performRole_mirrors (h : p.Mirrors user u) (hnames : u.nameIds ≠ []) (role : String) :
    (s.performRole item operation .propagate user u.nameIds p role).Mirrors user u := by
  unfold performRole
  split
  · exact h.sameRoles (.of_logged ⟨_, _, rfl⟩)
  · next changed directory hchange =>
    obtain ⟨⟨v, hv, rfl⟩, _⟩ := changeRole_eq_ok hchange
    obtain rfl := Option.some.inj (hv.symm.trans h.replayed)
    simp only
    rw [if_pos ⟨trivial, hnames⟩]
    refine ⟨h.submitter, ?_, fun sync hsync => ?_⟩
    · simp only [AfterJob.syncs_syncRole, RoleSync.replay_concat]
      exact Directory.user?_setRoles hv _
    · simp only [AfterJob.syncs_syncRole] at hsync
      rcases List.mem_append.mp hsync with hsync | hsync
      · exact h.named sync hsync
      · rw [List.mem_singleton.mp hsync]
        exact ⟨rfl, rfl⟩

theorem performRoles_mirrors {change : RoleChange} (h : p.Mirrors user u) (hnames : u.nameIds ≠ [])
    (hmode : change.mode = .propagate) :
    (s.performRoles vars item operation change p).Mirrors user u := by
  have hfailed : ∀ misses, (s.failAll item misses p).Mirrors user u := fun misses =>
    h.sameRoles (.of_logged (s.failAll_logged item misses p))
  unfold performRoles
  rw [h.submitter]
  simp only [(hfailed _).replayed, hmode]
  exact List.foldlRecOn _ _ (hfailed _) fun q hq role _ => performRole_mirrors hq hnames role

theorem carries_mirrors (hmode : ∀ item ∈ s.graph.workflow.items, ∀ operation change,
      item.action = .changeRole operation change → change.mode = .propagate)
    (hnames : u.nameIds ≠ []) :
    s.Carries (s.Performs record world op) fun p => p.Mirrors user u :=
  carries_of_sameRoles (fun hsame h => h.sameRoles hsame) fun hperf ha h =>
    performRoles_mirrors h hnames (hmode _ hperf.mem_items _ _ ha)

/-- **The changes that are passed on mirror those that are made.**  Take a graph all of whose changes
of roles are passed on, and a record whose submitter the identity provider knows.  When an operation
succeeds, the changes among its jobs, made one after the other, lead from the roles that the
submitter had to the roles that the submitter has, and each of them names the submitter and all
identifiers of the submitter at the identity provider. -/
theorem operate_mirrored {outcome : Outcome}
    (hmode : ∀ item ∈ s.graph.workflow.items, ∀ operation change,
      item.action = .changeRole operation change → change.mode = .propagate)
    (hsub : record.submitter = some user) (hu : world.directory.user? user = some u)
    (hnames : u.nameIds ≠ []) (hok : (s.operate op record world).answer = .ok outcome) :
    ((s.operate op record world).world.directory.user? user).map User.roles =
      some (RoleSync.replay (AfterJob.syncs outcome.jobs) u.roles) ∧
    ∀ sync ∈ AfterJob.syncs outcome.jobs, sync.userId = user ∧ sync.nameIds = u.nameIds := by
  have hstart : (Pass.start record world).Mirrors user u := ⟨hsub, hu, fun _ h => nomatch h⟩
  have hcarries : s.Carries (s.Performs record world op) fun p => p.Mirrors user u :=
    carries_mirrors hmode hnames
  obtain ⟨q, hq, hworld, hjobs⟩ := hcarries.operate hstart
  obtain rfl := hjobs outcome hok
  refine ⟨?_, hq.named⟩
  rw [hworld, hq.replayed]
  rfl

end Scene

namespace Sample

/-- What the identity provider is told when the applicant is admitted. -/
def passedOn : List RoleSync :=
  [⟨"ada", ["n-1"], "r-1", .add⟩, ⟨"ada", ["n-1"], "r-2", .add⟩, ⟨"ada", ["n-1"], "r-1", .remove⟩]

end Sample

/-- The applicant became a guest in the first status and a member instead in the second, and the
identity provider comes to the same. -/
theorem Scene.operate_mirrored_sample : ∃ outcome,
    (Sample.clubhouse.operate .run Sample.applicant Sample.town).answer = .ok outcome ∧
    AfterJob.syncs outcome.jobs = Sample.passedOn ∧
    ((Sample.clubhouse.operate .run Sample.applicant Sample.town).world.directory.user? "ada").map
      User.roles = some (RoleSync.replay Sample.passedOn ∅) := by
  have hjobs : (Sample.clubhouse.operate .run Sample.applicant Sample.town).answer.toOption.map
      (fun outcome => AfterJob.syncs outcome.jobs) = some Sample.passedOn := by decide +kernel
  have hsub : Sample.applicant.submitter = some "ada" := rfl
  have hknown : Sample.town.directory.user? "ada" = some (Sample.user "ada" "n-1") := by
    decide +kernel
  have hmode : ∀ item ∈ Sample.clubhouse.graph.workflow.items, ∀ operation change,
      item.action = .changeRole operation change → change.mode = .propagate := by
    intro item hitem operation change ha
    have hall : ∀ item ∈ Sample.club.items, (match item.action with
        | .changeRole _ change => decide (change.mode = .propagate)
        | _ => true) = true := by decide +kernel
    have hitem := hall item hitem
    rw [ha] at hitem
    exact of_decide_eq_true hitem
  cases hok : (Sample.clubhouse.operate .run Sample.applicant Sample.town).answer with
  | error e =>
      rw [hok] at hjobs
      cases hjobs
  | ok outcome =>
      rw [hok] at hjobs
      have hsyncs : AfterJob.syncs outcome.jobs = Sample.passedOn := Option.some.inj hjobs
      have hmirrored := operate_mirrored hmode hsub hknown (by decide) hok
      rw [hsyncs] at hmirrored
      exact ⟨outcome, rfl, hsyncs, hmirrored.1⟩

end Docket
