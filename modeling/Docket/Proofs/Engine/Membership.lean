import Docket.Proofs.Directory
import Docket.Proofs.Engine.Jobs
import Docket.Proofs.Engine.Secrecy

/-! # Who gains and loses roles

The directory keeps the roles that users hold, and only items that change roles write into it.  They
write for the submitter of the record alone.

* `Scene.Resolves` says that an operation performs a change of roles whose specification means a
  role.
* `Scene.Membership` bounds what may become of the directory by what the operation performs, and
  `Scene.Membership.change` is the step over one role.
* `Pass.SameRoles` relates passes between which nothing has happened to roles.  All that a pass does
  is of this kind but for the items that change roles (`Scene.carries_of_sameRoles`).
* `Scene.operate_membership` is the statement about operations. -/

namespace Docket

open Expression (Variables)

namespace Scene

variable {s : Scene} {vars : Variables} {item : Item} {p : Pass} {op : Operation} {record : Record}
  {world : World} {user role : String} {operation : RoleOperation} {d d' : Directory}

/-! ### One change -/

/-- A role is given or taken away only where the directory knows the user, and given only if the
directory has it. -/
theorem changeRole_eq_ok {changed : Bool}
    (h : changeRole operation user role d = .ok (changed, d')) :
    (∃ u, d.user? user = some u ∧ d' = d.setUser { u with roles := operation.on role u.roles }) ∧
      (operation = .add → ∃ r ∈ d.roles, r.id = role) := by
  by_cases htakes : d.Takes ⟨operation, user, role⟩
  · obtain ⟨u, hu, hchange⟩ := Directory.changeRole_of_takes htakes
    rw [h] at hchange
    cases hchange
    exact ⟨⟨u, hu, rfl⟩, htakes.2⟩
  · obtain ⟨e, he⟩ := Directory.changeRole_of_not_takes htakes
    rw [h] at he
    cases he

/-- An item that the operation performs gives or takes away a role, among those that its
specification means then. -/
def Resolves (s : Scene) (record : Record) (world : World) (op : Operation)
    (operation : RoleOperation) (role : String) : Prop :=
  ∃ vars item p change, s.Performs record world op vars item p ∧
    item.action = .changeRole operation change ∧
    role ∈ ((s.resolver p false).resolve vars change.spec).1

/-- What may become of the directory in an operation on a record of this submitter: nothing but the
roles of the submitter changes, and each role that comes or goes was given or taken away. -/
structure Membership (s : Scene) (record : Record) (world : World) (op : Operation) (user : String)
    (d : Directory) : Prop where
  changes : Directory.ChangesOnly user world.directory d
  gained : ∀ role, world.directory.holds user role = false → d.holds user role = true →
    (∃ r ∈ world.directory.roles, r.id = role) ∧ s.Resolves record world op .add role
  lost : ∀ role, world.directory.holds user role = true → d.holds user role = false →
    s.Resolves record world op .remove role

theorem Membership.refl (s : Scene) (record : Record) (world : World) (op : Operation)
    (user : String) : s.Membership record world op user world.directory where
  changes := .refl user world.directory
  gained role hbefore hafter := by
    rw [hbefore] at hafter
    cases hafter
  lost role hbefore hafter := by
    rw [hbefore] at hafter
    cases hafter

/-- **One change of a role that the operation resolves to keeps the bound.** -/
theorem Membership.change {changed : Bool} (h : s.Membership record world op user d)
    (hchange : changeRole operation user role d = .ok (changed, d'))
    (hresolves : s.Resolves record world op operation role) :
    s.Membership record world op user d' := by
  obtain ⟨⟨u, hu, rfl⟩, hexists⟩ := changeRole_eq_ok hchange
  have hbetween : ∀ r, d.holds user r = u.roles.contains r := fun r => Directory.holds_of_user? hu
  have hafter : ∀ r, (d.setUser { u with roles := operation.on role u.roles }).holds user r =
      (operation.on role u.roles).contains r := fun r =>
    Directory.holds_of_user? (Directory.user?_setRoles hu _)
  refine ⟨h.changes.setUser hu, fun r hno hyes => ?_, fun r hyes hno => ?_⟩
  · rw [hafter] at hyes
    cases operation with
    | add =>
        rw [RoleOperation.on, NameSet.contains_insert, Bool.or_eq_true, decide_eq_true_eq] at hyes
        rcases hyes with rfl | hyes
        · rw [← h.changes.roles_eq]
          exact ⟨hexists rfl, hresolves⟩
        · exact h.gained r hno ((hbetween r).trans hyes)
    | remove =>
        rw [RoleOperation.on, NameSet.contains_erase, Bool.and_eq_true] at hyes
        exact h.gained r hno ((hbetween r).trans hyes.2)
  · rw [hafter] at hno
    cases operation with
    | add =>
        rw [RoleOperation.on, NameSet.contains_insert, Bool.or_eq_false_iff] at hno
        exact h.lost r hyes ((hbetween r).trans hno.2)
    | remove =>
        rw [RoleOperation.on, NameSet.contains_erase, Bool.and_eq_false_iff,
          decide_eq_false_iff_not, not_not] at hno
        rcases hno with rfl | hno
        · exact hresolves
        · exact h.lost r hyes ((hbetween r).trans hno)

end Scene

/-! ### What is not about roles -/

namespace AfterJob

/-- The change of a role that a job passes on. -/
def sync? : AfterJob → Option RoleSync
  | syncRole _ sync => some sync
  | notify .. => none

def syncs (jobs : List AfterJob) : List RoleSync := jobs.filterMap sync?

end AfterJob

/-- From `p` to `q` nothing has happened to roles: the record is of the same submitter, and the
directory and the changes that are to be passed on are the same. -/
structure Pass.SameRoles (p q : Pass) : Prop where
  submitter : q.record.submitter = p.record.submitter
  directory : q.world.directory = p.world.directory
  syncs : AfterJob.syncs q.jobs = AfterJob.syncs p.jobs

namespace Pass.SameRoles

variable {p q r : Pass}

theorem refl (p : Pass) : p.SameRoles p := ⟨rfl, rfl, rfl⟩

theorem trans (h : p.SameRoles q) (h' : q.SameRoles r) : p.SameRoles r :=
  ⟨h'.submitter.trans h.submitter, h'.directory.trans h.directory, h'.syncs.trans h.syncs⟩

theorem of_logged (h : p.Logged q) : p.SameRoles q := by
  obtain ⟨_, _, rfl⟩ := h
  exact ⟨rfl, rfl, rfl⟩

theorem ending (p : Pass) (e : Option PassState) : p.SameRoles { p with ending := e } :=
  ⟨rfl, rfl, rfl⟩

theorem arrive (s : Scene) (item : Item) (p : Pass) (origin : Origin) (next : Place) :
    p.SameRoles (s.arrive item p origin next) :=
  ⟨rfl, rfl, rfl⟩

theorem filledIn (p : Pass) (form : Table Json) : p.SameRoles (p.filledIn form) := ⟨rfl, rfl, rfl⟩

theorem noteEdit (s : Scene) (item : Item) (p : Pass) : p.SameRoles (s.noteEdit item p) :=
  ⟨rfl, rfl, rfl⟩

end Pass.SameRoles

namespace Scene

variable {s : Scene} {vars : Variables} {item : Item} {p : Pass} {op : Operation} {record : Record}
  {world : World}

theorem performDispatch_sameRoles (vars : Variables) (item : Item) (dispatch : Dispatch) (p : Pass) :
    p.SameRoles (s.performDispatch vars item dispatch p) := by
  obtain ⟨q, buckets, hlogged, heq⟩ := s.performDispatch_eq vars item dispatch p
  rw [heq]
  exact Pass.SameRoles.trans (.of_logged hlogged) ⟨rfl, rfl, rfl⟩

theorem deliver_sameRoles (item : Item) (notice : Notice) (p : Pass) :
    p.SameRoles (s.deliver item notice p) := by
  unfold deliver
  split
  · refine ⟨rfl, rfl, ?_⟩
    show AfterJob.syncs (p.jobs ++ [.notify (s.site p item) notice]) = _
    simp [AfterJob.syncs, AfterJob.sync?]
  · simp only
    split
    · exact ⟨rfl, rfl, rfl⟩
    · exact ⟨rfl, rfl, rfl⟩

theorem performNotify_sameRoles (vars : Variables) (item : Item) (n : Notification) (p : Pass) :
    p.SameRoles (s.performNotify vars item n p) := by
  have hrecipients := Pass.SameRoles.of_logged (s.recipients_logged vars item n p)
  unfold performNotify
  simp only
  split
  · exact hrecipients
  · split
    · exact hrecipients.trans (.of_logged ⟨_, _, rfl⟩)
    · exact hrecipients.trans (s.deliver_sameRoles item _ _)

/-- **What an operation carries along about roles.**  It has to be shown of the items that change
roles and are performed; nothing else matters to it. -/
theorem carries_of_sameRoles {P : Pass → Prop} (hsame : ∀ {p q : Pass}, p.SameRoles q → P p → P q)
    (hroles : ∀ {p : Pass} {vars : Variables} {item : Item} {operation : RoleOperation}
      {change : RoleChange}, s.Performs record world op vars item p →
      item.action = .changeRole operation change → P p →
      P (s.performRoles vars item operation change p)) :
    s.Carries (s.Performs record world op) P where
  logged hl hp := hsame (.of_logged hl) hp
  perform {p vars item} hperf hp := by
    unfold perform
    cases ha : item.action with
    | changeRole operation change => exact hroles hperf ha hp
    | dispatch dispatch => exact hsame (s.performDispatch_sameRoles vars item dispatch p) hp
    | notify n => exact hsame (s.performNotify_sameRoles vars item n p) hp
    | jump _ | message _ | choice _ | edit _ => exact hp
  ending e hp := hsame (.ending _ e) hp
  arrive item origin next hp := hsame (.arrive s item _ origin next) hp
  filledIn form hp := hsame (.filledIn _ form) hp
  noteEdit item hp := hsame (.noteEdit s item _) hp

/-! ### Operations -/

section Submitter

variable {user : String} {operation : RoleOperation} {change : RoleChange}

theorem performRole_membership {mode : RoleChangeMode} {nameIds : List String} {role : String}
    (h : s.Membership record world op user p.world.directory)
    (hresolves : s.Resolves record world op operation role) :
    s.Membership record world op user
      (s.performRole item operation mode user nameIds p role).world.directory := by
  unfold performRole
  split
  · exact h
  · next changed directory hchange =>
    simp only
    split
    · exact h.change hchange hresolves
    · exact h.change hchange hresolves

theorem performRoles_membership (hperf : s.Performs record world op vars item p)
    (ha : item.action = .changeRole operation change) (hsub : p.record.submitter = some user)
    (h : s.Membership record world op user p.world.directory) :
    s.Membership record world op user
      (s.performRoles vars item operation change p).world.directory := by
  unfold performRoles
  rw [hsub]
  simp only
  refine List.foldlRecOn (motive := fun q : Pass =>
    s.Membership record world op user q.world.directory) _ _ ?_ fun q hq role hrole => ?_
  · rw [(s.failAll_logged item _ p).directory]
    exact h
  · exact performRole_membership hq
      ⟨vars, item, p, change, hperf, ha, List.mem_of_mem_filter hrole⟩

theorem carries_membership (s : Scene) (record : Record) (world : World) (op : Operation)
    (user : String) : s.Carries (s.Performs record world op) fun p =>
      p.record.submitter = some user ∧ s.Membership record world op user p.world.directory := by
  refine carries_of_sameRoles (fun hsame hp => ?_) fun hperf ha hp => ⟨?_, ?_⟩
  · rw [hsame.submitter, hsame.directory]
    exact hp
  · rw [(s.performRoles_sameRecord _ _ _ _ _).record]
    exact hp.1
  · exact performRoles_membership hperf ha hp.1 hp.2

theorem carries_nobody (s : Scene) (record : Record) (world : World) (op : Operation) :
    s.Carries (s.Performs record world op) fun p =>
      p.record.submitter = none ∧ p.world.directory = world.directory := by
  refine carries_of_sameRoles (fun hsame hp => ?_) fun hperf ha hp => ?_
  · rw [hsame.submitter, hsame.directory]
    exact hp
  · unfold performRoles
    rw [hp.1]
    exact hp

end Submitter

theorem look_world {α : Type} (view : Variables → List Item → Pass → Pass × α)
    (hlog : ∀ (vars : Variables) (items : List Item) (p : Pass), p.Logged (view vars items p).1)
    (record : Record) (world : World) :
    ∃ log, (s.look record world view).world = { world with log } := by
  unfold look
  simp only
  split
  · exact ⟨world.log, rfl⟩
  · next status _ =>
    obtain ⟨log, _, hview⟩ := hlog (s.bindings (Pass.start record world)) status.items
      (Pass.start record world)
    exact ⟨log, congrArg Pass.world hview⟩

theorem look_directory {α : Type} (view : Variables → List Item → Pass → Pass × α)
    (hlog : ∀ (vars : Variables) (items : List Item) (p : Pass), p.Logged (view vars items p).1)
    (record : Record) (world : World) :
    (s.look record world view).world.directory = world.directory := by
  obtain ⟨_, hworld⟩ := look_world (s := s) view hlog record world
  rw [hworld]

/-- **Changes of roles stay with the submitter.**  An operation changes at most the roles that the
submitter of the record holds.  The submitter gains only roles of the directory to which an item
that gives roles resolved when the operation performed it, and loses only roles to which an item
that takes roles did.  Where the record has no submitter whom the directory knows, nothing changes,
and neither does it when the record is looked at. -/
theorem operate_membership (s : Scene) (op : Operation) (record : Record) (world : World) :
    (∀ user, record.submitter = some user →
      s.Membership record world op user (s.operate op record world).world.directory) ∧
    ((∀ user, record.submitter = some user → world.directory.user? user = none) →
      (s.operate op record world).world.directory = world.directory) ∧
    (s.surface record world).world.directory = world.directory ∧
    (s.messages record world).world.directory = world.directory := by
  have hmember : ∀ user, record.submitter = some user →
      s.Membership record world op user (s.operate op record world).world.directory := by
    intro user hsub
    obtain ⟨q, ⟨_, hq⟩, hworld, _⟩ :=
      (s.carries_membership record world op user).operate ⟨hsub, .refl s record world op user⟩
    rw [hworld]
    exact hq
  refine ⟨hmember, fun hunknown => ?_, ?_, ?_⟩
  · cases hsub : record.submitter with
    | none =>
        obtain ⟨q, ⟨_, hq⟩, hworld, _⟩ := (s.carries_nobody record world op).operate ⟨hsub, rfl⟩
        rw [hworld]
        exact hq
    | some user => exact (hmember user hsub).changes.eq_of_none (hunknown user hsub)
  · exact look_directory s.surfaceItems surfaceItems_logged record world
  · exact look_directory s.shownMessages shownMessages_logged record world

end Scene

namespace Sample

/-- An item that changes the roles of who submitted the record, also at the identity provider. -/
def changing (id : String) (operation : RoleOperation) (spec : String) : Item :=
  item id (.changeRole operation ⟨spec, .propagate⟩)

/-- A club: who applies is a guest, and who is admitted is a member and no guest any more. -/
def club : Workflow where
  id := "club"
  name := "Club"
  initial := "applied"
  statuses := [
    ⟨"applied", "Applied", [changing "greet" .add "guest",
      item "admit" (.jump ⟨"admitted", false, .immediate⟩)], false⟩,
    ⟨"admitted", "Admitted", [changing "enrol" .add "member", changing "retire" .remove "guest",
      changing "vouch" .add "_user:bob"], true⟩]
  functions := ∅
  globalActions := []

theorem club_check : club.check .default = .ok () := by decide +kernel

def clubhouse : Scene :=
  ⟨.ofSettings .default .accepting, ⟨.default, club, club_check⟩, ⟨none, .automatic, now, ∅⟩⟩

def applicant : Record := .create club .nil now ∅ (some "ada")

/-- A user with an identifier at the identity provider. -/
def user (id nameId : String) : User := ⟨id, id, none, none, [nameId], ∅, true, false⟩

def town : World :=
  ⟨.ofLists [⟨"r-1", "Guest", "guest"⟩, ⟨"r-2", "Member", "member"⟩]
    [user "ada" "n-1", user "bob" "n-2"], .empty, []⟩

end Sample

/-- Who applied is a member now, and nothing came of vouching for somebody else. -/
theorem Scene.operate_membership_sample :
    (Sample.clubhouse.operate .run Sample.applicant Sample.town).world.directory.holds "ada" "r-2" =
      true ∧
    Sample.clubhouse.Resolves Sample.applicant Sample.town .run .add "r-2" ∧
    (Sample.clubhouse.operate .run Sample.applicant Sample.town).world.directory.user? "bob" =
      Sample.town.directory.user? "bob" := by
  obtain ⟨hmember, _⟩ :=
    Scene.operate_membership Sample.clubhouse .run Sample.applicant Sample.town
  have hada := hmember "ada" rfl
  have hheld : (Sample.clubhouse.operate .run Sample.applicant
      Sample.town).world.directory.holds "ada" "r-2" = true := by decide +kernel
  have hgained := hada.gained "r-2" (by decide +kernel) hheld
  exact ⟨hheld, hgained.2, hada.changes.others "bob" (by decide)⟩

end Docket
