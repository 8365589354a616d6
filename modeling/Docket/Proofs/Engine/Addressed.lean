import Docket.Proofs.Engine.Delivery
import Docket.Proofs.Engine.Membership
import Docket.Proofs.Engine.Standing
import Docket.Proofs.Resolver.Values

/-! # Who is notified

A notice goes to somebody or is not sent at all.  Text messages go to the values of the recipients
template as they are, and everything else to the users behind the roles that the template resolves
to, as far as they may be reached.

* `Directory.Reaches` says whom a role means, and `Resolver.mem_reachable` who is left of the users
  behind roles.  No user is there twice (`Resolver.nodup_usersOf`).
* `Scene.Recipients` says whom a notification means on a pass, and `Scene.Notified` what comes of it.
* `Pass.SameNotices` relates passes between which nobody is notified.  All that a pass does is of
  this kind but for the items that notify (`Scene.carries_of_sameNotices`).
* `Scene.operate_addressed` is the statement about operations. -/

namespace Docket

open Expression (Variables)

/-! ### Users behind roles -/

/-- A role means a user: it is the pseudo role of the user, or it is no pseudo role and the user holds
it. -/
def Directory.Reaches (d : Directory) (role : String) (u : User) : Prop :=
  role = userRole u.id ∨ userOfRole? role = none ∧ d.holds u.id role = true

namespace Resolver

variable {s : Resolver} {roles : List String} {u : User}

theorem nodup_addUsers {users : List User} (more : List User) (h : (users.map User.id).Nodup) :
    ((addUsers users more).map User.id).Nodup := by
  refine List.foldlRecOn (motive := fun seen : List User => (seen.map User.id).Nodup) more _ h
    fun seen hseen v _ => ?_
  split
  · exact hseen
  · next hnew =>
    rw [List.map_append, List.map_singleton, ← List.concat_eq_append]
    refine hseen.concat fun hmem => hnew ?_
    obtain ⟨w, hw, hid⟩ := List.mem_map.mp hmem
    exact List.any_eq_true.mpr ⟨w, hw, decide_eq_true hid⟩

/-- **No user is behind several roles twice.** -/
theorem nodup_usersOf (s : Resolver) (roles : List String) :
    ((s.usersOf roles).map User.id).Nodup :=
  List.foldlRecOn (motive := fun users : List User => (users.map User.id).Nodup) roles _
    List.nodup_nil fun _ husers role _ => nodup_addUsers (s.usersOfRole role) husers

theorem mem_reachable : u ∈ (s.usersOf roles).filter User.isReachable ↔
    s.directory.user? u.id = some u ∧ u.isActive = true ∧ u.isDeleted = false ∧
      ∃ role ∈ roles, s.directory.Reaches role u := by
  rw [List.mem_filter, mem_usersOf]
  simp only [mem_usersOfRole, Directory.Reaches, User.isReachable, Bool.and_eq_true,
    Bool.not_eq_true']
  constructor
  · rintro ⟨⟨role, hrole, hknown, hmeans⟩, hactive, hdeleted⟩
    exact ⟨hknown, hactive, hdeleted, role, hrole, hmeans⟩
  · rintro ⟨hknown, hactive, hdeleted, role, hrole, hmeans⟩
    exact ⟨⟨role, hrole, hknown, hmeans⟩, hactive, hdeleted⟩

end Resolver

/-! ### One notice -/

namespace Scene

/-- Whom a notification means on a pass.  A text message goes to the values of the template, which are
no empty texts, and to nobody if the template cannot be read.  Anything else goes to the addresses of
the users who are active and not deleted and whom a role means that the template resolves to, one
address for each of them. -/
structure Recipients (s : Scene) (vars : Variables) (n : Notification) (p : Pass)
    (recipients : List String) : Prop where
  numbers : n.channel = .sms → "" ∉ recipients ∧
    (∀ v, s.engine.rules.render vars n.recipients = .ok v → recipients = flatten true v) ∧
    ∀ e, s.engine.rules.render vars n.recipients = .error e → recipients = []
  users : n.channel = .webservice → ∃ users : List User,
    recipients = users.map User.address ∧ (users.map User.id).Nodup ∧
    ∀ u, u ∈ users ↔ p.world.directory.user? u.id = some u ∧ u.isActive = true ∧
      u.isDeleted = false ∧
      ∃ role ∈ ((s.resolver p true).resolve vars n.recipients).1, p.world.directory.Reaches role u

/-- The notice goes to those whom the notification means, and there is somebody. -/
structure Addresses (s : Scene) (vars : Variables) (n : Notification) (p : Pass) (notice : Notice) :
    Prop where
  channel_eq : notice.channel = n.channel
  someone : notice.recipients ≠ []
  meant : s.Recipients vars n p notice.recipients

end Scene

/-- From `p` to `q` nobody was notified, neither at once nor for later. -/
structure Pass.SameNotices (p q : Pass) : Prop where
  sent : q.world.sent = p.world.sent
  later : AfterJob.notices q.jobs = AfterJob.notices p.jobs

namespace Pass.SameNotices

variable {p q r : Pass}

theorem refl (p : Pass) : p.SameNotices p := ⟨rfl, rfl⟩

theorem trans (h : p.SameNotices q) (h' : q.SameNotices r) : p.SameNotices r :=
  ⟨h'.sent.trans h.sent, h'.later.trans h.later⟩

theorem of_logged (h : p.Logged q) : p.SameNotices q := by
  obtain ⟨_, _, rfl⟩ := h
  exact ⟨rfl, rfl⟩

end Pass.SameNotices

namespace Scene

variable {s : Scene} {vars : Variables} {item : Item} {n : Notification} {p : Pass} {op : Operation}
  {record : Record} {world : World} {notice : Notice}

theorem recipients_meant (s : Scene) (vars : Variables) (item : Item) (n : Notification) (p : Pass) :
    s.Recipients vars n p (s.recipients vars item n p).1 where
  numbers hsms := by
    unfold recipients
    rw [hsms]
    cases hrender : s.engine.rules.render vars n.recipients with
    | ok v =>
        refine ⟨notMem_flatten true v, ?_, ?_⟩
        · rintro _ ⟨⟩
          rfl
        · rintro _ ⟨⟩
    | error e =>
        refine ⟨List.not_mem_nil, ?_, fun _ _ => rfl⟩
        rintro _ ⟨⟩
  users hweb := by
    refine ⟨((s.resolver p true).usersOf
      ((s.resolver p true).resolve vars n.recipients).1).filter User.isReachable, ?_, ?_,
      fun u => Resolver.mem_reachable⟩
    · unfold recipients
      rw [hweb]
    · exact (Resolver.nodup_usersOf _ _).sublist (List.filter_sublist.map User.id)

/-- What comes of a notification: nobody is told if it means nobody or its text cannot be rendered, and
otherwise one notice is sent to those whom it means, or left for later. -/
inductive Notified (s : Scene) (vars : Variables) (n : Notification) (p : Pass) : Pass → Prop
  | nobody {q : Pass} : s.Recipients vars n p [] → p.SameNotices q → Notified s vars n p q
  | unreadable {q : Pass} {e : Expression.Error} :
      s.engine.rules.renderText vars n.body = .error e → p.SameNotices q → Notified s vars n p q
  | sent {q : Pass} {notice : Notice} : s.engine.settings.deferNotifications = false →
      s.Addresses vars n p notice → q.world.sent = p.world.sent ++ [notice] →
      AfterJob.notices q.jobs = AfterJob.notices p.jobs → Notified s vars n p q
  | later {q : Pass} {notice : Notice} : s.engine.settings.deferNotifications = true →
      s.Addresses vars n p notice → q.world.sent = p.world.sent →
      AfterJob.notices q.jobs = AfterJob.notices p.jobs ++ [notice] → Notified s vars n p q

theorem deliver_notified {q : Pass} (h : s.Addresses vars n p notice) (hq : p.SameNotices q) :
    s.Notified vars n p (s.deliver item notice q) := by
  unfold deliver
  split
  · next hdefer =>
    refine .later hdefer h hq.sent ?_
    rw [← hq.later]
    exact AfterJob.notices_notify _ _ _
  · next hdefer =>
    refine .sent (Bool.eq_false_iff.mpr hdefer) h ?_ ?_
    · rw [← hq.sent]
      exact s.send_sent s.engine.notifier item notice q
    · rw [← hq.later]
      exact congrArg AfterJob.notices (s.send_jobs s.engine.notifier item notice q)

theorem performNotify_notified (s : Scene) (vars : Variables) (item : Item) (n : Notification)
    (p : Pass) : s.Notified vars n p (s.performNotify vars item n p) := by
  have hsame := Pass.SameNotices.of_logged (s.recipients_logged vars item n p)
  have hmeant := s.recipients_meant vars item n p
  unfold performNotify
  simp only
  split
  · next hnobody =>
    rw [List.isEmpty_iff.mp hnobody] at hmeant
    exact .nobody hmeant hsame
  · next hsomeone =>
    split
    · next e hbody => exact .unreadable hbody (hsame.trans (.of_logged ⟨_, _, rfl⟩))
    · exact deliver_notified ⟨rfl, mt List.isEmpty_iff.mpr hsomeone, hmeant⟩ hsame

/-! ### What notifies nobody -/

theorem performDispatch_sameNotices (s : Scene) (vars : Variables) (item : Item) (dispatch : Dispatch)
    (p : Pass) : p.SameNotices (s.performDispatch vars item dispatch p) := by
  obtain ⟨q, buckets, hlogged, heq⟩ := s.performDispatch_eq vars item dispatch p
  rw [heq]
  exact Pass.SameNotices.trans (.of_logged hlogged) ⟨rfl, rfl⟩

theorem performRole_sameNotices (operation : RoleOperation) (mode : RoleChangeMode) (user : String)
    (nameIds : List String) (p : Pass) (role : String) :
    p.SameNotices (s.performRole item operation mode user nameIds p role) := by
  unfold performRole
  split
  · exact .of_logged ⟨_, _, rfl⟩
  · simp only
    split
    · exact ⟨rfl, AfterJob.notices_syncRole _ _ _⟩
    · exact ⟨rfl, rfl⟩

theorem performRoles_sameNotices (s : Scene) (vars : Variables) (item : Item)
    (operation : RoleOperation) (change : RoleChange) (p : Pass) :
    p.SameNotices (s.performRoles vars item operation change p) := by
  unfold performRoles
  split
  · exact .refl p
  · simp only
    refine List.foldlRecOn (motive := fun q => p.SameNotices q) _ _
      (.of_logged (s.failAll_logged item _ p)) fun q hq role _ => ?_
    exact hq.trans (performRole_sameNotices _ _ _ _ q role)

/-- **What an operation carries along about notices.**  It has to be shown of the items that notify
and are performed; nothing else matters to it. -/
theorem carries_of_sameNotices {P : Pass → Prop} (hsame : ∀ {p q : Pass}, p.SameNotices q → P p → P q)
    (hnotify : ∀ {p q : Pass} {vars : Variables} {item : Item} {n : Notification},
      s.Performs record world op vars item p → item.action = .notify n → s.Notified vars n p q →
      P p → P q) :
    s.Carries (s.Performs record world op) P where
  logged hl hp := hsame (.of_logged hl) hp
  perform {p vars item} hperf hp := by
    unfold perform
    cases ha : item.action with
    | notify n => exact hnotify hperf ha (s.performNotify_notified vars item n p) hp
    | dispatch dispatch => exact hsame (s.performDispatch_sameNotices vars item dispatch p) hp
    | changeRole operation change =>
        exact hsame (s.performRoles_sameNotices vars item operation change p) hp
    | jump _ | message _ | choice _ | edit _ => exact hp
  ending {p} _ hp := hsame (p := p) ⟨rfl, rfl⟩ hp
  arrive {p} _ _ _ hp := hsame (p := p) ⟨rfl, rfl⟩ hp
  filledIn {p} _ hp := hsame (p := p) ⟨rfl, rfl⟩ hp
  noteEdit {p} _ hp := hsame (p := p) ⟨rfl, rfl⟩ hp

/-! ### Operations -/

/-- A notice of an operation: an item that it performs gives it, to those whom its notification means
then. -/
inductive Notifies (s : Scene) (record : Record) (world : World) (op : Operation)
    (notice : Notice) : Prop
  | mk {vars : Variables} {item : Item} {n : Notification} {p : Pass} :
      s.Performs record world op vars item p → item.action = .notify n →
      s.Addresses vars n p notice → Notifies s record world op notice

/-- All that was sent on a pass since the world was `world`, and all that was left for later, are
notices of the operation. -/
structure Notices (s : Scene) (record : Record) (world : World) (op : Operation) (p : Pass) :
    Prop where
  sent : ∃ calls, p.world.sent = world.sent ++ calls ∧
    ∀ notice ∈ calls, s.Notifies record world op notice
  later : ∀ notice ∈ AfterJob.notices p.jobs, s.Notifies record world op notice

theorem carries_notices (s : Scene) (record : Record) (world : World) (op : Operation) :
    s.Carries (s.Performs record world op) (s.Notices record world op) := by
  refine carries_of_sameNotices (fun hsame hp => ?_) fun {p q vars item n} hperf ha hnotified hp => ?_
  · exact ⟨hsame.sent ▸ hp.sent, hsame.later ▸ hp.later⟩
  · obtain ⟨⟨calls, hcalls, hall⟩, hlater⟩ := hp
    cases hnotified with
    | nobody _ hsame | unreadable _ hsame =>
        exact ⟨⟨calls, hsame.sent.trans hcalls, hall⟩, hsame.later ▸ hlater⟩
    | @sent notice _ haddresses hsent hsame =>
        refine ⟨⟨calls ++ [notice], ?_, List.forall_mem_append.mpr ⟨hall, ?_⟩⟩, hsame ▸ hlater⟩
        · rw [hsent, hcalls, List.append_assoc]
        · exact List.forall_mem_singleton.mpr (.mk hperf ha haddresses)
    | @later notice _ haddresses hsame hleft =>
        refine ⟨⟨calls, hsame.trans hcalls, hall⟩, ?_⟩
        rw [hleft]
        exact List.forall_mem_append.mpr
          ⟨hlater, List.forall_mem_singleton.mpr (.mk hperf ha haddresses)⟩

/-- **Notices go to somebody, and only to those who may be reached.**  Whatever an operation sends, and
whatever it leaves for later, an item that it performs gives to those whom its notification means then.
Looking at a record sends nothing.  And no item that notifies keeps to itself what it has to say, if
there is somebody to be told and its text can be rendered. -/
theorem operate_addressed (s : Scene) (op : Operation) (record : Record) (world : World) :
    (∃ calls, (s.operate op record world).world.sent = world.sent ++ calls ∧
      ∀ notice ∈ calls, s.Notifies record world op notice) ∧
    (∀ outcome, (s.operate op record world).answer = .ok outcome →
      ∀ notice ∈ AfterJob.notices outcome.jobs, s.Notifies record world op notice) ∧
    (s.surface record world).world.sent = world.sent ∧
    (s.messages record world).world.sent = world.sent ∧
    ∀ vars item n p, item.action = .notify n → s.Notified vars n p (s.perform vars item p).1 := by
  have hstart : s.Notices record world op (Pass.start record world) :=
    ⟨⟨[], (List.append_nil _).symm, fun _ h => nomatch h⟩, fun _ h => nomatch h⟩
  obtain ⟨q, hq, hworld, hjobs⟩ := (s.carries_notices record world op).operate hstart
  refine ⟨?_, fun outcome hok => ?_, ?_, ?_, fun vars item n p haction => ?_⟩
  · rw [hworld]
    exact hq.sent
  · obtain rfl := hjobs outcome hok
    exact hq.later
  · obtain ⟨_, hlook⟩ := look_world (s := s) s.surfaceItems surfaceItems_logged record world
    exact (congrArg World.sent hlook :)
  · obtain ⟨_, hlook⟩ := look_world (s := s) s.shownMessages shownMessages_logged record world
    exact (congrArg World.sent hlook :)
  · unfold perform
    rw [haction]
    exact s.performNotify_notified vars item n p

end Scene

namespace Sample

/-- What the desk is told, and Ada by name. -/
def summons : Notification := ⟨.webservice, "_desk, _user:ada", "Take it", none⟩

/-- A request that two numbers and the desk are told about. -/
def telling : Workflow where
  id := "request"
  name := "Request"
  initial := "draft"
  statuses := [⟨"draft", "Draft", [item "text" (.notify ⟨.sms, "123, , 456", "A request", none⟩),
    item "call" (.notify summons)], false⟩]
  functions := ∅
  globalActions := []

theorem telling_check : telling.check .default = .ok () := by decide +kernel

def teller : Scene :=
  ⟨.ofSettings .default .accepting, ⟨.default, telling, telling_check⟩, ⟨none, .automatic, now, ∅⟩⟩

def told : Record := .create telling .nil now ∅ none

/-- The request before anybody was told. -/
def untold : Pass := .start told staffed

def takeIt : Notice :=
  ⟨.webservice, ["ada"], "Take it", Scene.metadata untold (item "call" (.notify summons)) summons⟩

end Sample

namespace Scene

/-- The blank number is left out, and Ada, who stands at the desk, is told once. -/
theorem operate_addressed_sample :
    (Sample.teller.operate .run Sample.told Sample.staffed).world.sent.map Notice.recipients =
      [["123", "456"], ["ada"]] ∧
    ∀ notice ∈ (Sample.teller.operate .run Sample.told Sample.staffed).world.sent,
      Sample.teller.Notifies Sample.told Sample.staffed .run notice := by
  obtain ⟨⟨calls, hcalls, hall⟩, _⟩ :=
    operate_addressed Sample.teller .run Sample.told Sample.staffed
  refine ⟨by decide +kernel, ?_⟩
  rw [hcalls]
  exact hall

/-- **Who holds the pseudo role of somebody is not told in their place.**  The template resolves to the
desk and to Ada's pseudo role.  Bob holds the latter as if it were a role and may be reached, and only
Ada is told. -/
theorem operate_addressed_passes_over :
    Sample.takeIt ∈ (Sample.teller.operate .run Sample.told Sample.staffed).world.sent ∧
    ¬ ∀ u : User, Sample.staffed.directory.user? u.id = some u → u.isActive = true →
        u.isDeleted = false →
        (∃ role ∈ ((Sample.teller.resolver Sample.untold true).resolve
            (Sample.teller.bindings Sample.untold) Sample.summons.recipients).1,
          Sample.staffed.directory.Bears u.id role) →
        u.address ∈ Sample.takeIt.recipients := by
  refine ⟨by decide +kernel, fun hall => ?_⟩
  have hbob : Sample.staffed.directory.user? "bob" = some (Sample.holder "bob" "_user:ada") := by
    decide +kernel
  have hrole : "_user:ada" ∈ ((Sample.teller.resolver Sample.untold true).resolve
      (Sample.teller.bindings Sample.untold) Sample.summons.recipients).1 := by decide +kernel
  have htold := hall (Sample.holder "bob" "_user:ada") hbob rfl rfl
    ⟨"_user:ada", hrole, Or.inl (by decide +kernel)⟩
  exact absurd htold (by decide +kernel)

end Scene
end Docket
