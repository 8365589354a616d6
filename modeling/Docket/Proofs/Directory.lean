import Docket.Engine.Action
import Mathlib.Data.List.Induction

/-! # Who holds which role

The directory knows users by their identifiers, and a user holds a set of roles.  Giving a role and
taking one away are the only changes, and there are three ways to ask who holds what.

* `Directory.ChangesOnly` says that two directories differ at most in the roles of one user, and
  `Directory.Coherent` that the three ways to ask agree.
* `Directory.Change` is a change that somebody asks for.  The directory takes it exactly where it
  knows the user, and for a gift also the role (`Directory.answer_eq_ok_iff`).  A change that is
  taken decides about its user and its role, and about nobody and nothing else
  (`Directory.holds_next_self`, `Directory.holds_next_of_ne`).
* `Directory.membership_by_history` says it of changes one after the other: the last change that was
  taken decides who holds what. -/

namespace Docket

/-! ### Sets of names -/

namespace NameSet

variable (names : NameSet) (n m : String)

theorem contains_insert : (names.insert n).contains m = (decide (n = m) || names.contains m) := by
  rw [Keyed.contains_eq, Keyed.contains_eq, Keyed.get?_insert]
  by_cases h : n = m <;> simp [h]

theorem contains_erase : (names.erase n).contains m = (decide (m ≠ n) && names.contains m) := by
  rw [Keyed.contains_eq, Keyed.contains_eq, Keyed.get?_erase]
  by_cases h : m = n <;> simp [h]

theorem mem_items_iff : n ∈ names.items ↔ names.contains n = true := by
  unfold Keyed.contains
  simp

end NameSet

/-- The roles of a user after one of them was given or taken away. -/
def RoleOperation.on (role : String) (roles : NameSet) : RoleOperation → NameSet
  | .add => roles.insert role
  | .remove => roles.erase role

namespace RoleOperation

variable (operation : RoleOperation) (role : String) (roles : NameSet)

/-- A role is held after it was given, and not after it was taken away. -/
theorem contains_on_self :
    (operation.on role roles).contains role = decide (operation = .add) := by
  cases operation with
  | add => simp [on, NameSet.contains_insert]
  | remove => simp [on, NameSet.contains_erase]

theorem contains_on_of_ne {other : String} (h : other ≠ role) :
    (operation.on role roles).contains other = roles.contains other := by
  cases operation with
  | add => simp [on, NameSet.contains_insert, Ne.symm h]
  | remove => simp [on, NameSet.contains_erase, h]

end RoleOperation

/-! ### Directories -/

namespace Directory

variable {d d' d'' : Directory} {user role : String}

theorem user?_setUser (d : Directory) (u : User) (id : String) :
    (d.setUser u).user? id = if u.id = id then some u else d.user? id :=
  Keyed.get?_insert d.users u id

theorem user?_setRoles {u : User} (hu : d.user? user = some u) (roles : NameSet) :
    (d.setUser { u with roles }).user? user = some { u with roles } := by
  rw [user?_setUser, if_pos (Keyed.key_of_get? hu)]

/-- Directories that differ at most in the roles that one user holds. -/
structure ChangesOnly (user : String) (d d' : Directory) : Prop where
  roles_eq : d'.roles = d.roles
  others : ∀ other, other ≠ user → d'.user? other = d.user? other
  self : ∃ roles, d'.user? user = (d.user? user).map fun u => { u with roles }

namespace ChangesOnly

theorem refl (user : String) (d : Directory) : ChangesOnly user d d where
  roles_eq := rfl
  others _ _ := rfl
  self := by
    cases h : d.user? user with
    | none => exact ⟨∅, rfl⟩
    | some u => exact ⟨u.roles, rfl⟩

/-- A user whom the directory does not know cannot change. -/
theorem eq_of_none (h : ChangesOnly user d d') (hnone : d.user? user = none) : d' = d := by
  obtain ⟨roles, users⟩ := d
  obtain ⟨roles', users'⟩ := d'
  obtain rfl : roles' = roles := h.roles_eq
  obtain rfl : users' = users := by
    refine Keyed.ext_get? fun id => ?_
    by_cases hid : id = user
    · obtain ⟨_, hself⟩ := h.self
      rw [hnone] at hself
      rw [hid]
      exact hself.trans hnone.symm
    · exact h.others id hid
  rfl

theorem setUser {u : User} {roles : NameSet} (h : ChangesOnly user d d')
    (hu : d'.user? user = some u) : ChangesOnly user d (d'.setUser { u with roles }) where
  roles_eq := h.roles_eq
  others other hne := by
    have hid : u.id = user := Keyed.key_of_get? hu
    rw [user?_setUser, if_neg (by rw [hid]; exact fun he => hne he.symm)]
    exact h.others other hne
  self := by
    obtain ⟨roles', hself⟩ := h.self
    rw [hu] at hself
    obtain ⟨v, hv, hvu⟩ := Option.map_eq_some_iff.mp hself.symm
    refine ⟨roles, ?_⟩
    rw [user?_setRoles hu, hv, ← hvu]
    rfl

/-- Nobody comes and nobody goes. -/
theorem isSome_user? (h : ChangesOnly user d d') (other : String) :
    (d'.user? other).isSome = (d.user? other).isSome := by
  by_cases hne : other = user
  · obtain ⟨_, hself⟩ := h.self
    rw [hne, hself, Option.isSome_map]
  · rw [h.others other hne]

end ChangesOnly

theorem holds_of_user? {u : User} (hu : d.user? user = some u) :
    d.holds user role = u.roles.contains role := by
  unfold holds
  rw [hu]
  rfl

/-! ### Three ways to ask -/

/-- The roles of a user and the members of a role are those that the directory says the user holds,
and the members are users of the directory. -/
structure Coherent (d : Directory) : Prop where
  rolesOf : ∀ user role, role ∈ d.rolesOf user ↔ d.holds user role = true
  members : ∀ user role, user ∈ (d.members role).map User.id ↔ d.holds user role = true
  known : ∀ role, ∀ u ∈ d.members role, d.user? u.id = some u

theorem mem_rolesOf_iff : role ∈ d.rolesOf user ↔ d.holds user role = true := by
  unfold rolesOf
  cases hu : d.user? user with
  | none => simp [holds, hu]
  | some u => rw [holds_of_user? hu, NameSet.mem_items_iff]

/-- The members of a role are the users of the directory who hold it. -/
theorem mem_members_iff {u : User} :
    u ∈ d.members role ↔ d.user? u.id = some u ∧ u.roles.contains role = true := by
  unfold members
  rw [List.mem_filter]
  refine and_congr_left fun _ => ⟨fun hmem => Keyed.get?_of_mem hmem, fun hu => ?_⟩
  exact Keyed.mem_of_get? hu

theorem coherent (d : Directory) : d.Coherent where
  rolesOf _ _ := mem_rolesOf_iff
  members user role := by
    rw [List.mem_map]
    constructor
    · rintro ⟨u, hu, rfl⟩
      obtain ⟨hknown, hrole⟩ := mem_members_iff.mp hu
      rw [holds_of_user? hknown]
      exact hrole
    · intro hholds
      cases hu : d.user? user with
      | none => simp [holds, hu] at hholds
      | some u =>
          have hid : u.id = user := Keyed.key_of_get? hu
          rw [holds_of_user? hu] at hholds
          refine ⟨u, mem_members_iff.mpr ⟨?_, hholds⟩, hid⟩
          rw [hid]
          exact hu
  known _ _ hu := (mem_members_iff.mp hu).1

/-! ### One change -/

/-- A role that somebody asks to be given to a user or taken away. -/
structure Change where
  operation : RoleOperation
  user : String
  role : String
deriving DecidableEq, Repr

def Change.isAbout (c : Change) (user role : String) : Bool := c.user = user && c.role = role

theorem Change.isAbout_iff {c : Change} :
    c.isAbout user role = true ↔ c.user = user ∧ c.role = role := by
  unfold isAbout
  simp

/-- What the directory answers: whether the change makes a difference, or why it refuses it. -/
def answer (d : Directory) (c : Change) : Except Error Bool :=
  (Scene.changeRole c.operation c.user c.role d).map Prod.fst

/-- The directory after a change that it was asked for. -/
def next (d : Directory) (c : Change) : Directory :=
  match Scene.changeRole c.operation c.user c.role d with
  | .ok (_, d') => d'
  | .error _ => d

variable {c : Change}

/-- The directory takes a change where it knows the user, and the role if it is to be given. -/
def Takes (d : Directory) (c : Change) : Prop :=
  (∃ u, d.user? c.user = some u) ∧ (c.operation = .add → ∃ r ∈ d.roles, r.id = c.role)

/-- **What the directory does with a change that it takes.** -/
theorem changeRole_of_takes (h : d.Takes c) :
    ∃ u, d.user? c.user = some u ∧
      Scene.changeRole c.operation c.user c.role d =
        .ok (u.roles.contains c.role != decide (c.operation = .add),
          d.setUser { u with roles := c.operation.on c.role u.roles }) := by
  obtain ⟨operation, user, role⟩ := c
  obtain ⟨⟨u, hu⟩, hrole⟩ := h
  refine ⟨u, hu, ?_⟩
  cases operation with
  | add =>
      have hany : (d.roles.any fun r => r.id = role) = true := by
        obtain ⟨r, hr, hid⟩ := hrole rfl
        exact List.any_eq_true.mpr ⟨r, hr, decide_eq_true hid⟩
      simp only [Scene.changeRole, grant, hany, if_true, hu]
      simp [RoleOperation.on]
  | remove =>
      simp only [Scene.changeRole, revoke, hu]
      simp [RoleOperation.on]

/-- **A change that the directory does not take is refused.** -/
theorem changeRole_of_not_takes (h : ¬ d.Takes c) :
    ∃ e, Scene.changeRole c.operation c.user c.role d = .error e := by
  obtain ⟨operation, user, role⟩ := c
  cases hu : d.user? user with
  | none =>
      cases operation with
      | add =>
          by_cases hany : (d.roles.any fun r => r.id = role) = true
          · exact ⟨.unknownUser user, by simp only [Scene.changeRole, grant, hany, if_true, hu]⟩
          · exact ⟨.unknownRole role, by simp only [Scene.changeRole, grant, if_neg hany]⟩
      | remove => exact ⟨.unknownUser user, by simp only [Scene.changeRole, revoke, hu]⟩
  | some u =>
      cases operation with
      | add =>
          have hany : ¬ (d.roles.any fun r => r.id = role) = true := by
            intro hany
            obtain ⟨r, hr, hid⟩ := List.any_eq_true.mp hany
            exact h ⟨⟨u, hu⟩, fun _ => ⟨r, hr, of_decide_eq_true hid⟩⟩
          exact ⟨.unknownRole role, by simp only [Scene.changeRole, grant, if_neg hany]⟩
      | remove => exact absurd ⟨⟨u, hu⟩, nofun⟩ h

theorem answer_eq_ok_iff : (∃ b, d.answer c = .ok b) ↔ d.Takes c := by
  unfold answer
  by_cases h : d.Takes c
  · obtain ⟨u, _, hchange⟩ := changeRole_of_takes h
    rw [hchange]
    exact iff_of_true ⟨_, rfl⟩ h
  · obtain ⟨e, he⟩ := changeRole_of_not_takes h
    rw [he]
    exact iff_of_false (by simp [Except.map]) h

theorem next_of_not_takes (h : ¬ d.Takes c) : d.next c = d := by
  obtain ⟨e, he⟩ := changeRole_of_not_takes h
  unfold next
  rw [he]

theorem next_changesOnly (d : Directory) (c : Change) : ChangesOnly c.user d (d.next c) := by
  by_cases h : d.Takes c
  · obtain ⟨u, hu, hchange⟩ := changeRole_of_takes h
    unfold next
    rw [hchange]
    exact (ChangesOnly.refl c.user d).setUser hu
  · rw [next_of_not_takes h]
    exact .refl c.user d

theorem holds_next_self (h : d.Takes c) :
    (d.next c).holds c.user c.role = decide (c.operation = .add) := by
  obtain ⟨u, hu, hchange⟩ := changeRole_of_takes h
  unfold next
  rw [hchange]
  show (d.setUser _).holds c.user c.role = _
  rw [holds_of_user? (user?_setRoles hu _), RoleOperation.contains_on_self]

/-- A change is about its own user and its own role only. -/
theorem holds_next_of_ne (h : c.isAbout user role = false) :
    (d.next c).holds user role = d.holds user role := by
  by_cases htakes : d.Takes c
  · by_cases huser : user = c.user
    · subst huser
      have hrole : role ≠ c.role := by
        rintro rfl
        simp [Change.isAbout] at h
      obtain ⟨u, hu, hchange⟩ := changeRole_of_takes htakes
      unfold next
      rw [hchange]
      show (d.setUser _).holds c.user role = _
      rw [holds_of_user? (user?_setRoles hu _), holds_of_user? hu]
      exact RoleOperation.contains_on_of_ne c.operation c.role u.roles hrole
    · unfold holds
      rw [(d.next_changesOnly c).others user huser]
  · rw [next_of_not_takes htakes]

/-- **The directory says of a change whether it makes a difference.** -/
theorem answer_eq_true_iff :
    d.answer c = .ok true ↔ (d.next c).holds c.user c.role ≠ d.holds c.user c.role := by
  by_cases h : d.Takes c
  · rw [holds_next_self h]
    obtain ⟨u, hu, hchange⟩ := changeRole_of_takes h
    unfold answer
    rw [hchange, holds_of_user? hu]
    show Except.ok _ = _ ↔ _
    rw [Except.ok.injEq, bne_iff_ne]
    exact ne_comm
  · rw [next_of_not_takes h]
    refine iff_of_false (fun hok => h (answer_eq_ok_iff.mp ⟨true, hok⟩)) (by simp)

/-! ### Changes one after the other -/

/-- The directory after changes that it was asked for, one after the other. -/
def after (d : Directory) (changes : List Change) : Directory := changes.foldl next d

theorem after_concat (d : Directory) (changes : List Change) (c : Change) :
    d.after (changes ++ [c]) = (d.after changes).next c := by
  unfold after
  rw [List.foldl_append]
  rfl

/-- The changes that the directory answers with success, in order. -/
def taken (d : Directory) : List Change → List Change
  | [] => []
  | c :: rest => if (d.answer c).isOk then c :: taken (d.next c) rest else taken (d.next c) rest

/-- The last change about a role of a user that the directory answers with success. -/
def lastTaken? (d : Directory) (user role : String) (changes : List Change) : Option Change :=
  ((d.taken changes).filter fun c => c.isAbout user role).getLast?

theorem isOk_answer_iff : (d.answer c).isOk = true ↔ d.Takes c := by
  rw [← answer_eq_ok_iff]
  cases d.answer c with
  | ok b => simp [Except.isOk, Except.toBool]
  | error e => simp [Except.isOk, Except.toBool]

theorem taken_concat (d : Directory) (changes : List Change) (c : Change) :
    d.taken (changes ++ [c]) =
      d.taken changes ++ if ((d.after changes).answer c).isOk then [c] else [] := by
  induction changes generalizing d with
  | nil => rfl
  | cons b rest ih =>
      rw [List.cons_append, taken, taken, ih]
      show _ = _ ++ if (((d.next b).after rest).answer c).isOk then [c] else []
      split
      · rw [List.cons_append]
      · rfl

/-- A change that is taken is the last one about its role of its user. -/
theorem lastTaken?_concat_of_takes {user role : String} {changes : List Change}
    (htakes : (d.after changes).Takes c) (habout : c.isAbout user role = true) :
    d.lastTaken? user role (changes ++ [c]) = some c := by
  unfold lastTaken?
  rw [taken_concat, if_pos (isOk_answer_iff.mpr htakes), List.filter_append]
  simp [habout]

theorem lastTaken?_concat_of_not {user role : String} {changes : List Change}
    (h : ¬ ((d.after changes).Takes c ∧ c.isAbout user role = true)) :
    d.lastTaken? user role (changes ++ [c]) = d.lastTaken? user role changes := by
  unfold lastTaken?
  rw [taken_concat]
  by_cases htakes : (d.after changes).Takes c
  · have habout : c.isAbout user role = false :=
      Bool.eq_false_iff.mpr fun habout => h ⟨htakes, habout⟩
    rw [if_pos (isOk_answer_iff.mpr htakes), List.filter_append]
    simp [habout]
  · rw [if_neg (fun hok => htakes (isOk_answer_iff.mp hok)), List.append_nil]

/-- What the history of the changes says about a role of a user: the last change that was taken gave
it, or there was no such change and the user held it before. -/
def HeldByHistory (d : Directory) (user role : String) (changes : List Change) : Prop :=
  (∃ c, d.lastTaken? user role changes = some c ∧ c.operation = .add) ∨
    (d.lastTaken? user role changes = none ∧ d.holds user role = true)

theorem after_changesOnly_known (d : Directory) (changes : List Change) :
    (d.after changes).roles = d.roles ∧
      ∀ user, ((d.after changes).user? user).isSome = (d.user? user).isSome := by
  induction changes using List.reverseRecOn with
  | nil => exact ⟨rfl, fun _ => rfl⟩
  | append_singleton changes c ih =>
      have hstep := (d.after changes).next_changesOnly c
      rw [after_concat]
      exact ⟨hstep.roles_eq.trans ih.1, fun user => (hstep.isSome_user? user).trans (ih.2 user)⟩

theorem holds_after_iff (d : Directory) (user role : String) (changes : List Change) :
    (d.after changes).holds user role = true ↔ d.HeldByHistory user role changes := by
  unfold HeldByHistory
  induction changes using List.reverseRecOn with
  | nil => simp [after, lastTaken?, taken]
  | append_singleton changes c ih =>
      rw [after_concat]
      by_cases h : (d.after changes).Takes c ∧ c.isAbout user role = true
      · obtain ⟨htakes, habout⟩ := h
        rw [lastTaken?_concat_of_takes htakes habout]
        obtain ⟨rfl, rfl⟩ := Change.isAbout_iff.mp habout
        simp [holds_next_self htakes]
      · have hsame : ((d.after changes).next c).holds user role =
            (d.after changes).holds user role := by
          by_cases htakes : (d.after changes).Takes c
          · exact holds_next_of_ne (Bool.eq_false_iff.mpr fun habout => h ⟨htakes, habout⟩)
          · rw [next_of_not_takes htakes]
        rw [lastTaken?_concat_of_not h, hsame, ih]

/-- What the answer to a change says about the roles that users hold before it and after it. -/
structure Answered (d : Directory) (c : Change) : Prop where
  ok_iff : (∃ b, d.answer c = .ok b) ↔ d.Takes c
  true_iff : d.answer c = .ok true ↔ (d.next c).holds c.user c.role ≠ d.holds c.user c.role
  refused : ∀ e, d.answer c = .error e → d.next c = d
  elsewhere : ∀ user role, ¬ (user = c.user ∧ role = c.role) →
    (d.next c).holds user role = d.holds user role

theorem answered (d : Directory) (c : Change) : d.Answered c where
  ok_iff := answer_eq_ok_iff
  true_iff := answer_eq_true_iff
  refused e he := next_of_not_takes fun htakes => by
    obtain ⟨b, hb⟩ := answer_eq_ok_iff.mpr htakes
    rw [he] at hb
    cases hb
  elsewhere user role hne := holds_next_of_ne <| Bool.eq_false_iff.mpr fun habout =>
    hne ⟨(Change.isAbout_iff.mp habout).1.symm, (Change.isAbout_iff.mp habout).2.symm⟩

/-- **The last change that was taken decides who holds what.**  At every point of a history of
changes, a user holds a role exactly if the last change about the two that the directory answered
with success gave it, or there was none and the user held it at the start.  The directory answers
that a change made a difference exactly if it did; one that it refuses leaves it as it is, and none
touches another user or another role.  The roles of a user and the members of a role are at every
point those that the directory says are held, and the users and the roles that it knows stay. -/
theorem membership_by_history (d : Directory) (changes : List Change) :
    (∀ user role, (d.after changes).holds user role = true ↔ d.HeldByHistory user role changes) ∧
      (∀ c, (d.after changes).Answered c) ∧ (d.after changes).Coherent ∧
      (d.after changes).roles = d.roles ∧
      ∀ user, ((d.after changes).user? user).isSome = (d.user? user).isSome := by
  obtain ⟨hroles, husers⟩ := d.after_changesOnly_known changes
  exact ⟨fun user role => d.holds_after_iff user role changes, fun c => (d.after changes).answered c,
    (d.after changes).coherent, hroles, husers⟩

-- A role that does not exist is refused, and leaves the gift before it the last change.
example :
    let d := ofLists [⟨"r1", "Chief", "chief"⟩] [⟨"ada", "Ada", none, none, [], ∅, true, false⟩]
    let changes := [⟨.add, "ada", "r1"⟩, ⟨.add, "ada", "chief"⟩, ⟨.remove, "bob", "r1"⟩]
    d.taken changes = [⟨.add, "ada", "r1"⟩] ∧ (d.after changes).holds "ada" "r1" = true := by
  decide +kernel

end Directory
end Docket
