import Docket.Proofs.Engine.Operation
import Docket.Proofs.Resolver

/-! # Who stands behind a reference

An entry of a list of those who are admitted refers to roles, and so does a recipient.  Entries are
read when somebody acts, and recipients are resolved when somebody is to be told.  The two readings
part ways over functions: an entry is a function if it is named like one, with an underscore, and a
recipient if the record has such a function.

`Resolver.Contested` says where that makes a difference.  `Scene.admits_iff_behind` says that
everywhere else the two agree on who stands behind a reference, but for users who hold the pseudo
role of somebody as if it were a role, and what holds of the entries where they do not. -/

namespace Docket

open Expression (Variables)

/-! ### References -/

/-- An entry that refers to roles: a text without blanks around it that is no template, does not
name a user and has no meaning of its own. -/
structure IsReference (entry : String) : Prop where
  trimmed : Text.trimText entry = entry
  nonempty : entry ≠ ""
  plain : Expression.isTemplate entry = false
  ne_submitter : entry ≠ submitterEntry
  ne_loggedUsers : entry ≠ loggedUsers
  not_user : ¬ "_user".toList <+: entry.toList

namespace Resolver

variable {s : Resolver} {vars : Variables} {template : Option String} {entry role : String}

theorem valuesOf_reference (h : IsReference entry) (hwhole : s.split = true → ',' ∉ entry.toList) :
    s.valuesOf vars entry = [entry] := by
  have hlist : Text.trim entry.toList = entry.toList := by
    have htrim := congrArg String.toList h.trimmed
    unfold Text.trimText at htrim
    rwa [String.toList_ofList] at htrim
  have hne : entry.toList ≠ [] := fun hnil => h.nonempty (String.toList_eq_nil_iff.mp hnil)
  have hparts : (if s.split = true then commaPieces entry.toList else [entry.toList]) =
      [entry.toList] := by
    split
    · next hsplit => exact commaPieces_of_notMem (hwhole hsplit)
    · rfl
  unfold valuesOf expand
  rw [h.plain]
  show textValues s.split entry = [entry]
  unfold textValues
  rw [hparts]
  simp [hlist, hne]

/-- A reference is a function of the record if the record has it, and else a role of the
directory. -/
theorem resolveOne_reference (h : IsReference entry) {roles : List String} :
    s.resolveOne template entry = .ok roles ↔
      (∃ found, s.buckets.value? entry = some found ∧ roles = found.items) ∨
        s.buckets.value? entry = none ∧
          ∃ id, s.directory.lookup? entry = some id ∧ roles = [id] := by
  have hpseudo : userOfRole? entry = none := by
    rw [userOfRole?_eq_none_iff]
    rintro id rfl
    refine h.not_user ?_
    unfold userRole
    rw [String.toList_append]
    exact (by decide : "_user".toList <+: userMark.toList).trans (List.prefix_append _ _)
  have hform : userForm? entry = none := by
    cases hfound : userForm? entry with
    | none => rfl
    | some found => exact absurd (user_prefix_of_userForm? hfound) h.not_user
  unfold resolveOne
  simp only [hpseudo, hform]
  cases s.buckets.value? entry with
  | some found => simp [eq_comm]
  | none =>
      cases s.directory.lookup? entry with
      | some id => simp [eq_comm]
      | none => simp

theorem mem_resolve_reference (h : IsReference entry)
    (hwhole : s.split = true → ',' ∉ entry.toList) :
    role ∈ (s.resolve vars entry).1 ↔
      (∃ found, s.buckets.value? entry = some found ∧ role ∈ found.items) ∨
        s.buckets.value? entry = none ∧ s.directory.lookup? entry = some role := by
  rw [mem_resolve, valuesOf_reference h hwhole]
  simp only [List.mem_singleton, exists_eq_left, resolveOne_reference h]
  constructor
  · rintro ⟨roles, ⟨found, hfound, rfl⟩ | ⟨hnone, id, hid, rfl⟩, hrole⟩
    · exact Or.inl ⟨found, hfound, hrole⟩
    · obtain rfl := List.mem_singleton.mp hrole
      exact Or.inr ⟨hnone, hid⟩
  · rintro (⟨found, hfound, hrole⟩ | ⟨hnone, hid⟩)
    · exact ⟨_, Or.inl ⟨found, hfound, rfl⟩, hrole⟩
    · exact ⟨_, Or.inr ⟨hnone, role, hid, rfl⟩, List.mem_singleton_self role⟩

/-- An entry that is named like a function, while the record has no such function and the directory
has such a role; or one that is not named like a function, while the record has such a function. -/
def Contested (s : Resolver) (entry : String) : Prop :=
  (Record.isHidden entry = true ∧ s.buckets.value? entry = none ∧
      s.directory.lookup? entry ≠ none) ∨
    (Record.isHidden entry = false ∧ s.buckets.value? entry ≠ none)

end Resolver

namespace Directory

variable {d : Directory} {r : Record} {user entry : String}

theorem standsFor_iff_bears {role : String} : d.standsFor user role = true ↔ d.Bears user role := by
  refine ⟨bears_of_standsFor, ?_⟩
  unfold standsFor
  rintro (hholds | rfl)
  · rw [hholds, Bool.or_true]
  · rw [userOfRole?_userRole, decide_eq_true rfl, Bool.true_or]

/-- An entry that is named like a function admits those who bear one of its roles. -/
theorem entryAdmits_function (h : IsReference entry) (hhidden : Record.isHidden entry = true) :
    d.entryAdmits r user entry = true ↔
      ∃ found, r.buckets.value? entry = some found ∧ ∃ role ∈ found.items, d.Bears user role := by
  unfold entryAdmits
  rw [if_neg h.ne_submitter, if_neg h.ne_loggedUsers, if_pos hhidden]
  simp only [Option.any_eq_true, List.any_eq_true, standsFor_iff_bears]

theorem entryAdmits_role (h : IsReference entry) (hhidden : Record.isHidden entry = false) :
    d.entryAdmits r user entry = true ↔
      ∃ role, d.lookup? entry = some role ∧ d.Bears user role := by
  unfold entryAdmits
  rw [if_neg h.ne_submitter, if_neg h.ne_loggedUsers, hhidden, if_neg Bool.false_ne_true]
  simp only [Option.any_eq_true, standsFor_iff_bears]

theorem bears_iff {s : Resolver} {u : User} {role : String} (hu : s.directory.user? u.id = some u) :
    s.directory.Bears u.id role ↔ u ∈ s.usersOfRole role ∨
      ∃ id, id ≠ u.id ∧ role = userRole id ∧ s.directory.holds u.id role = true := by
  rw [Resolver.mem_usersOfRole]
  unfold Bears
  constructor
  · rintro (hholds | hrole)
    · cases hpseudo : userOfRole? role with
      | none => exact Or.inl ⟨hu, Or.inr ⟨rfl, hholds⟩⟩
      | some id =>
          obtain rfl := userOfRole?_eq_some hpseudo
          by_cases hid : id = u.id
          · exact Or.inl ⟨hu, Or.inl (hid ▸ rfl)⟩
          · exact Or.inr ⟨id, hid, rfl, hholds⟩
    · exact Or.inl ⟨hu, Or.inl hrole⟩
  · rintro (⟨_, hrole | ⟨_, hholds⟩⟩ | ⟨_, _, _, hholds⟩)
    · exact Or.inr hrole
    · exact Or.inl hholds
    · exact Or.inl hholds

end Directory

namespace Scene

/-- The users behind what an entry resolves to. -/
def behind (s : Scene) (p : Pass) (split : Bool) (vars : Variables) (entry : String) : List User :=
  (s.resolver p split).usersOf ((s.resolver p split).resolve vars entry).1

variable {s : Scene} {p : Pass} {vars : Variables} {entry : String} {u : User} {split : Bool}

/-- A reference resolves by the functions of the record before the roles of the directory. -/
theorem mem_resolve_iff {role : String} (h : IsReference entry)
    (hwhole : split = true → ',' ∉ entry.toList) :
    role ∈ ((s.resolver p split).resolve vars entry).1 ↔
      (∃ found, p.record.buckets.value? entry = some found ∧ role ∈ found.items) ∨
        p.record.buckets.value? entry = none ∧ p.world.directory.lookup? entry = some role :=
  Resolver.mem_resolve_reference (s := s.resolver p split) h hwhole

/-- Outside the contested entries, an entry admits those who bear a role that it resolves to. -/
theorem entryAdmits_iff_bears (h : IsReference entry) (hwhole : split = true → ',' ∉ entry.toList)
    (hclear : ¬ (s.resolver p split).Contested entry) :
    p.world.directory.entryAdmits p.record u.id entry = true ↔
      ∃ role ∈ ((s.resolver p split).resolve vars entry).1, p.world.directory.Bears u.id role := by
  simp only [mem_resolve_iff h hwhole]
  cases hhidden : Record.isHidden entry with
  | true =>
      have hlookup : p.record.buckets.value? entry = none →
          p.world.directory.lookup? entry = none := by
        intro hnone
        by_contra hsome
        exact hclear (Or.inl ⟨hhidden, hnone, hsome⟩)
      rw [Directory.entryAdmits_function h hhidden]
      constructor
      · rintro ⟨found, hfound, role, hrole, hbears⟩
        exact ⟨role, Or.inl ⟨found, hfound, hrole⟩, hbears⟩
      · rintro ⟨role, ⟨found, hfound, hrole⟩ | ⟨hnone, hid⟩, hbears⟩
        · exact ⟨found, hfound, role, hrole, hbears⟩
        · rw [hlookup hnone] at hid
          cases hid
  | false =>
      have hbucket : p.record.buckets.value? entry = none := by
        by_contra hsome
        exact hclear (Or.inr ⟨hhidden, hsome⟩)
      rw [Directory.entryAdmits_role h hhidden]
      constructor
      · rintro ⟨role, hid, hbears⟩
        exact ⟨role, Or.inr ⟨hbucket, hid⟩, hbears⟩
      · rintro ⟨role, ⟨found, hfound, _⟩ | ⟨_, hid⟩, hbears⟩
        · rw [hbucket] at hfound
          cases hfound
        · exact ⟨role, hid, hbears⟩

/-- A contested entry admits nobody if it is named like a function, and else those who bear the role
of the directory, whatever it resolves to. -/
theorem entryAdmits_of_contested (h : IsReference entry)
    (hcontested : (s.resolver p split).Contested entry) :
    p.world.directory.entryAdmits p.record u.id entry = true ↔
      Record.isHidden entry = false ∧
        ∃ role, p.world.directory.lookup? entry = some role ∧
          p.world.directory.Bears u.id role := by
  rcases hcontested with ⟨hhidden, hnone, _⟩ | ⟨hhidden, _⟩
  · have hbucket : p.record.buckets.value? entry = none := hnone
    rw [Directory.entryAdmits_function h hhidden, hhidden, hbucket]
    simp
  · rw [Directory.entryAdmits_role h hhidden, hhidden]
    simp

/-- **Authorisation and resolution agree on who stands behind a reference.**  A known user acts, and
the entry is not contested: then a list with this entry alone admits the user exactly if the user is
among those behind the roles that the entry resolves to, or holds one of these roles that is the
pseudo role of somebody else.  Of a contested entry, what it resolves to does not count: it admits
nobody if it is named like a function, and else those who bear the role of the directory.  An entry
with a comma is one reference only where commas do not make a list. -/
theorem admits_iff_behind (h : IsReference entry) (hacting : s.moment.user = some u.id)
    (hknown : p.world.directory.user? u.id = some u)
    (hwhole : split = true → ',' ∉ entry.toList) (vars : Variables) :
    (¬ (s.resolver p split).Contested entry →
        (s.admits p [entry] = true ↔
          u ∈ s.behind p split vars entry ∨
            ∃ id, id ≠ u.id ∧ userRole id ∈ ((s.resolver p split).resolve vars entry).1 ∧
              p.world.directory.holds u.id (userRole id) = true)) ∧
      ((s.resolver p split).Contested entry →
        (s.admits p [entry] = true ↔
          Record.isHidden entry = false ∧
            ∃ role, p.world.directory.lookup? entry = some role ∧
              p.world.directory.Bears u.id role)) := by
  have hadmits : s.admits p [entry] = p.world.directory.entryAdmits p.record u.id entry := by
    unfold admits Directory.admits
    rw [hacting]
    simp
  rw [hadmits]
  refine ⟨fun hclear => ?_, entryAdmits_of_contested h⟩
  have hbears (role : String) : p.world.directory.Bears u.id role ↔
      u ∈ (s.resolver p split).usersOfRole role ∨
        ∃ id, id ≠ u.id ∧ role = userRole id ∧ p.world.directory.holds u.id role = true :=
    Directory.bears_iff (s := s.resolver p split) hknown
  have hreading : p.world.directory.entryAdmits p.record u.id entry = true ↔
      ∃ role ∈ ((s.resolver p split).resolve vars entry).1, p.world.directory.Bears u.id role :=
    entryAdmits_iff_bears h hwhole hclear
  unfold behind
  rw [hreading, Resolver.mem_usersOf]
  constructor
  · rintro ⟨role, hrole, hrolebears⟩
    rcases (hbears role).mp hrolebears with hbehind | ⟨id, hne, rfl, hholds⟩
    · exact Or.inl ⟨role, hrole, hbehind⟩
    · exact Or.inr ⟨id, hne, hrole, hholds⟩
  · rintro (⟨role, hrole, hbehind⟩ | ⟨id, hne, hrole, hholds⟩)
    · exact ⟨role, hrole, (hbears role).mpr (Or.inl hbehind)⟩
    · exact ⟨_, hrole, (hbears _).mpr (Or.inr ⟨id, hne, rfl, hholds⟩)⟩

end Scene

namespace Sample

/-- A user who holds one role. -/
def holder (id role : String) : User := ⟨id, id, none, none, [], Keyed.ofList [role], true, false⟩

/-- Ada stands at the desk, Eve sells in the north, and Bob holds the pseudo role of Ada as if it
were a role. -/
def staffed : World :=
  ⟨.ofLists [⟨"r-1", "Desk", "_desk"⟩, ⟨"r-2", "Sales, North", "sales"⟩]
    [holder "ada" "r-1", holder "bob" "_user:ada", holder "eve" "r-2"], .empty, []⟩

/-- The request after a role was routed into a function. -/
def handed (function role : String) : Pass :=
  .start { record with buckets := Keyed.ofList [(function, Keyed.ofList [role])] } staffed

theorem isReference_receiver : IsReference "_receiver" :=
  ⟨by decide, by decide, by decide, by decide, by decide, by decide⟩

end Sample

namespace Scene

/-- Ada stands at the desk that the request was handed to, and may act for its receiver. -/
theorem admits_iff_behind_sample :
    IsReference "_receiver" ∧ (Sample.scene "ada").moment.user = some "ada" ∧
      (Sample.handed "_receiver" "r-1").world.directory.user? "ada" =
        some (Sample.holder "ada" "r-1") ∧
      (true = true → ',' ∉ "_receiver".toList) ∧
      (Sample.scene "ada").admits (Sample.handed "_receiver" "r-1") ["_receiver"] = true := by
  have hknown : (Sample.handed "_receiver" "r-1").world.directory.user? "ada" =
      some (Sample.holder "ada" "r-1") := by decide +kernel
  have hwhole : true = true → ',' ∉ "_receiver".toList := by decide
  have hclear : ¬ ((Sample.scene "ada").resolver (Sample.handed "_receiver" "r-1") true).Contested
      "_receiver" := by
    unfold Resolver.Contested
    decide +kernel
  have hbehind : Sample.holder "ada" "r-1" ∈ (Sample.scene "ada").behind
      (Sample.handed "_receiver" "r-1") true (fun _ => none) "_receiver" := by decide +kernel
  refine ⟨Sample.isReference_receiver, rfl, hknown, hwhole, ?_⟩
  exact ((admits_iff_behind (u := Sample.holder "ada" "r-1") Sample.isReference_receiver rfl hknown
    hwhole (fun _ => none)).1 hclear).mpr (Or.inl hbehind)

/-- **Authorisation and resolution may part ways.**  A role of the directory that is named like a
function resolves to those who hold it, and admits nobody.  So does a function that is not named
like one.  Who holds the pseudo role of somebody is admitted by a function with that role, though
only that other user stands behind it.  And where commas make a list, a role with a comma in its
name admits those who hold it and resolves to nothing. -/
theorem admits_disagrees :
    (IsReference "_desk" ∧
      (Sample.scene "ada").admits (Sample.handed "_receiver" "r-1") ["_desk"] = false ∧
      Sample.holder "ada" "r-1" ∈ (Sample.scene "ada").behind
        (Sample.handed "_receiver" "r-1") false (fun _ => none) "_desk") ∧
    (IsReference "receivers" ∧
      (Sample.scene "ada").admits (Sample.handed "receivers" "r-1") ["receivers"] = false ∧
      Sample.holder "ada" "r-1" ∈ (Sample.scene "ada").behind
        (Sample.handed "receivers" "r-1") false (fun _ => none) "receivers") ∧
    (IsReference "_receiver" ∧
      (Sample.scene "bob").admits (Sample.handed "_receiver" "_user:ada") ["_receiver"] = true ∧
      Sample.holder "bob" "_user:ada" ∉ (Sample.scene "bob").behind
        (Sample.handed "_receiver" "_user:ada") false (fun _ => none) "_receiver") ∧
    (IsReference "Sales, North" ∧
      (Sample.scene "eve").admits (Sample.handed "_receiver" "r-1") ["Sales, North"] = true ∧
      Sample.holder "eve" "r-2" ∉ (Sample.scene "eve").behind
        (Sample.handed "_receiver" "r-1") true (fun _ => none) "Sales, North") := by
  refine ⟨⟨?_, ?_, ?_⟩, ⟨?_, ?_, ?_⟩, ⟨Sample.isReference_receiver, ?_, ?_⟩, ⟨?_, ?_, ?_⟩⟩
  · exact ⟨by decide, by decide, by decide, by decide, by decide, by decide⟩
  · decide +kernel
  · decide +kernel
  · exact ⟨by decide, by decide, by decide, by decide, by decide, by decide⟩
  · decide +kernel
  · decide +kernel
  · decide +kernel
  · decide +kernel
  · exact ⟨by decide, by decide, by decide, by decide, by decide, by decide⟩
  · decide +kernel
  · decide +kernel

end Scene
end Docket
