import Docket.Access
import Mathlib.Data.List.Basic

/-! # What admits a user

A list of those who are admitted is checked entry by entry.  `Directory.Vouches` gives the ways in
which an entry can speak for a user, and `Directory.vouches_of_admits` says that nobody gets past a
list that is not empty without one of them. -/

namespace Docket

theorem userOfRole?_eq_some {role user : String} (h : userOfRole? role = some user) :
    role = userRole user := by
  unfold userOfRole? at h
  split at h
  · next hmark =>
    cases h
    obtain ⟨rest, hrest⟩ := List.isPrefixOf_iff_prefix.mp hmark
    apply String.toList_inj.mp
    rw [userRole, String.toList_append, String.toList_ofList, ← hrest]
    rw [show userMark.length = userMark.toList.length from rfl, List.drop_left]
  · cases h

namespace Directory

variable {d : Directory} {r : Record} {user entry : String}

/-- The user holds the role, or it is the pseudo role of the user. -/
def Bears (d : Directory) (user role : String) : Prop :=
  d.holds user role = true ∨ role = userRole user

/-- An entry of a list speaks for a user on a record: it speaks for every user, for the submitter,
for those who bear a role of a function, or for those who bear a role of the directory, which it
names by identifier, slug or name. -/
inductive Vouches (d : Directory) (r : Record) (user : String) : String → Prop
  | everybody : Vouches d r user loggedUsers
  | submitter : r.submitter = some user → Vouches d r user submitterEntry
  | function {key role : String} {roles : NameSet} : key ≠ submitterEntry →
      Record.isHidden key = true → r.buckets.value? key = some roles → role ∈ roles.items →
      d.Bears user role → Vouches d r user key
  | role {entry : String} {role : Role} : role ∈ d.roles → d.lookup? entry = some role.id →
      role.id = entry ∨ role.slug = entry ∨ role.name = entry → d.Bears user role.id →
      Vouches d r user entry

theorem bears_of_standsFor {role : String} (h : d.standsFor user role = true) :
    d.Bears user role := by
  unfold standsFor at h
  rw [Bool.or_eq_true, decide_eq_true_eq] at h
  exact h.symm.imp id userOfRole?_eq_some

/-- What is looked up is a role of the directory, found by its identifier, its slug or its name. -/
theorem exists_of_lookup? {id : String} (h : d.lookup? entry = some id) :
    ∃ role ∈ d.roles, role.id = id ∧ (role.id = entry ∨ role.slug = entry ∨ role.name = entry) := by
  unfold lookup? at h
  obtain ⟨role, hrole, rfl⟩ := Option.map_eq_some_iff.mp h
  unfold roleById? roleBySlug? roleByName? at hrole
  simp only [Option.orElse_eq_orElse, Option.orElse_eq_or, Option.or_eq_some_iff] at hrole
  rcases hrole with h | ⟨_, h | ⟨_, h⟩⟩
  · have hid := List.find?_some h
    exact ⟨role, List.mem_of_find?_eq_some h, rfl, Or.inl (decide_eq_true_eq.mp hid)⟩
  · have hslug := List.find?_some h
    exact ⟨role, List.mem_of_find?_eq_some h, rfl, Or.inr (Or.inl (decide_eq_true_eq.mp hslug))⟩
  · have hname := List.find?_some h
    exact ⟨role, List.mem_of_find?_eq_some h, rfl, Or.inr (Or.inr (decide_eq_true_eq.mp hname))⟩

theorem vouches_of_entryAdmits (h : d.entryAdmits r user entry = true) :
    d.Vouches r user entry := by
  unfold entryAdmits at h
  split at h
  · next he =>
    rw [he]
    exact .submitter (decide_eq_true_eq.mp h)
  · next hne =>
    split at h
    · next he => rw [he]; exact .everybody
    · split at h
      · next hhidden =>
        obtain ⟨roles, hroles, hany⟩ := (Option.any_eq_true _ _).mp h
        obtain ⟨role, hrole, hstands⟩ := List.any_eq_true.mp hany
        exact .function hne hhidden hroles hrole (bears_of_standsFor hstands)
      · obtain ⟨id, hid, hstands⟩ := (Option.any_eq_true _ _).mp h
        obtain ⟨role, hrole, rfl, hfound⟩ := exists_of_lookup? hid
        exact .role hrole hid hfound (bears_of_standsFor hstands)

/-- **Nobody gets past a list without an entry that speaks for them,** except past the empty one. -/
theorem vouches_of_admits {acting : Option String} {admitted : List String}
    (h : d.admits r acting admitted = true) (hne : admitted ≠ []) :
    ∃ user, acting = some user ∧ ∃ entry ∈ admitted, d.Vouches r user entry := by
  unfold admits at h
  rw [if_neg (by simpa using hne)] at h
  cases acting with
  | none => cases h
  | some user =>
      obtain ⟨entry, hentry, hadmits⟩ := List.any_eq_true.mp h
      exact ⟨user, rfl, entry, hentry, vouches_of_entryAdmits hadmits⟩

end Directory
end Docket
