import Docket.Proofs.Access
import Docket.Proofs.Directory

/-! # What a specification resolves to

Each value of a specification goes one of four ways: it is a pseudo role already, it names a user in
one of the forms of `Attribute.form`, it is a function of the record, or a role of the directory.
`Resolver.resolveOne_backs` goes through them.

* `Resolver.Backs` says that there is such a role: in the directory, among the roles of a function
  of the record, or as the pseudo role of a user of the directory.
* `Resolver.Means` says whom a value means that names a user.
* `Resolver.resolve_tells` says which roles come out and what is missed.  All that comes out is
  there, but for the values that are pseudo roles already: nobody is looked up for them. -/

namespace Docket

open Expression (Variables)

/-! ### Pseudo roles -/

theorem userOfRole?_userRole (id : String) : userOfRole? (userRole id) = some id := by
  unfold userOfRole? userRole
  have hlist : (userMark ++ id).toList = userMark.toList ++ id.toList := String.toList_append
  rw [hlist, if_pos (List.isPrefixOf_iff_prefix.mpr (List.prefix_append _ _))]
  rw [show userMark.length = userMark.toList.length from rfl, List.drop_left, String.ofList_toList]

theorem userOfRole?_eq_none_iff {role : String} :
    userOfRole? role = none ↔ ∀ id, role ≠ userRole id := by
  constructor
  · rintro hnone id rfl
    rw [userOfRole?_userRole] at hnone
    cases hnone
  · intro h
    cases hrole : userOfRole? role with
    | none => rfl
    | some id => exact absurd (userOfRole?_eq_some hrole) (h id)

theorem userRole_injective : Function.Injective userRole := by
  intro id id' h
  have hsome := userOfRole?_userRole id
  rw [h, userOfRole?_userRole] at hsome
  cases hsome
  rfl

/-! ### Collected names -/

/-- What is collected in a list, item after item, where each step adds what belongs to its item.  A
step may rely on what all that is collected has in common. -/
theorem mem_foldl_collect {α β : Type} {G : β → Prop} {P : α → β → Prop}
    {f : List β → α → List β} {items : List α} {found : List β} (hfound : ∀ b ∈ found, G b)
    (hitems : ∀ a ∈ items, ∀ b, P a b → G b)
    (hstep : ∀ a ∈ items, ∀ seen, (∀ b ∈ seen, G b) → ∀ b, b ∈ f seen a ↔ b ∈ seen ∨ P a b)
    (b : β) : b ∈ items.foldl f found ↔ b ∈ found ∨ ∃ a ∈ items, P a b := by
  induction items generalizing found with
  | nil => simp
  | cons a items ih =>
      obtain ⟨hitem, hitems⟩ := List.forall_mem_cons.mp hitems
      obtain ⟨hfirst, hstep⟩ := List.forall_mem_cons.mp hstep
      have hseen : ∀ b ∈ f found a, G b := fun b hb =>
        ((hfirst found hfound b).mp hb).elim (hfound b) (hitem b)
      rw [List.foldl_cons, ih hseen hitems hstep, hfirst found hfound]
      simp only [List.mem_cons, or_and_right, exists_or, exists_eq_left, or_assoc]

def collect (seen names : List String) : List String :=
  names.foldl (fun seen n => if n ∈ seen then seen else seen ++ [n]) seen

theorem mem_collect {name : String} {seen names : List String} :
    name ∈ collect seen names ↔ name ∈ seen ∨ name ∈ names := by
  unfold collect
  rw [mem_foldl_collect (G := fun _ => True) (P := fun n name => name = n)]
  · simp
  · simp
  · simp
  · intro last _ seen _ name
    split
    · next hseen =>
      refine ⟨Or.inl, fun h => h.elim id ?_⟩
      rintro rfl
      exact hseen
    · rw [List.mem_append, List.mem_singleton]

theorem mem_distinctNames {name : String} {names : List String} :
    name ∈ distinctNames names ↔ name ∈ names := by
  show name ∈ collect [] names ↔ _
  rw [mem_collect]
  simp

/-! ### Texts without a comma -/

theorem firstCommaPiece_of_notMem {t : List Char} (h : ',' ∉ t) : firstCommaPiece t = (t, []) := by
  induction t with
  | nil => rfl
  | cons c rest ih =>
      obtain ⟨hc, hrest⟩ := not_or.mp (mt List.mem_cons.mpr h)
      unfold firstCommaPiece
      rw [ih hrest]
      exact if_neg (Ne.symm hc)

theorem commaPieces_of_notMem {t : List Char} (h : ',' ∉ t) : commaPieces t = [t] := by
  unfold commaPieces
  rw [firstCommaPiece_of_notMem h]

/-! ### Forms that name a user -/

/-- The form that names a user by an attribute. -/
def Attribute.form : Attribute → String
  | .id => "_user"
  | .nameId => "_user_nameid"
  | .email => "_user_email"
  | .name => "_user_name"

theorem Attribute.colon_notMem_form (what : Attribute) : ':' ∉ what.form.toList := by
  cases what <;> decide

theorem userForm?_form (what : Attribute) : userForm? what.form = some (what, none) := by
  cases what <;> decide

/-- The value of a form is what comes after the colon, without blanks around it. -/
theorem userForm?_form_append (what : Attribute) (text : String) :
    userForm? (what.form ++ ":" ++ text) = some (what, some (Text.trimText text)) := by
  have hlist : (what.form ++ ":" ++ text).toList = what.form.toList ++ ':' :: text.toList := by
    simp [String.toList_append]
  have hall : ∀ c ∈ what.form.toList, decide (c ≠ ':') = true := by
    intro c hc
    refine decide_eq_true ?_
    rintro rfl
    exact what.colon_notMem_form hc
  have htake : (what.form ++ ":" ++ text).toList.takeWhile (· ≠ ':') = what.form.toList := by
    rw [hlist, List.takeWhile_append_of_pos hall]
    simp
  have hdrop : (what.form ++ ":" ++ text).toList.dropWhile (· ≠ ':') = ':' :: text.toList := by
    rw [hlist, List.dropWhile_append_of_pos hall]
    simp
  unfold userForm?
  simp only [htake, hdrop, String.ofList_toList]
  cases what <;> rfl

theorem takeWhile_of_userForm? {value : String} {what : Attribute} {argument : Option String}
    (h : userForm? value = some (what, argument)) :
    value.toList.takeWhile (· ≠ ':') = what.form.toList := by
  have toList_of_ofList : ∀ {l : List Char} {form : String},
      String.ofList l = form → l = form.toList := by
    rintro l _ rfl
    exact String.toList_ofList.symm
  unfold userForm? at h
  simp only at h
  split at h
  all_goals cases h
  all_goals exact toList_of_ofList ‹_›

theorem user_prefix_of_userForm? {value : String} {found : Attribute × Option String}
    (h : userForm? value = some found) : "_user".toList <+: value.toList := by
  have hform : "_user".toList <+: found.1.form.toList := by
    cases found.1 <;> decide
  rw [← takeWhile_of_userForm? h] at hform
  exact hform.trans (List.takeWhile_prefix _)

theorem Directory.known_of_findUser? {d : Directory} {what : Attribute} {value : String} {u : User}
    (h : d.findUser? what value = some u) : d.user? u.id = some u := by
  have hother : ∀ p, d.users.items.find? p = some u → d.user? u.id = some u :=
    fun p hfound => Keyed.get?_of_mem (List.mem_of_find?_eq_some hfound)
  cases what with
  | id => exact (Keyed.key_of_get? h).symm ▸ h
  | nameId => exact hother _ h
  | email => exact hother _ h
  | name => exact hother _ h

namespace Resolver

variable {s : Resolver} {vars : Variables} {template : Option String} {spec value role : String}
  {values roles : List String} {u : User}

/-! ### One value -/

/-- There is such a role: the directory has it, a function of the record has it, or it is the pseudo
role of a user whom the directory knows. -/
inductive Backs (s : Resolver) : String → Prop
  | directory {role : Role} : role ∈ s.directory.roles → Backs s role.id
  | function {key role : String} {roles : NameSet} : s.buckets.value? key = some roles →
      role ∈ roles.items → Backs s role
  | user {u : User} : s.directory.user? u.id = some u → Backs s (userRole u.id)

/-- Whom a value means that names a user, if the directory knows anybody like that: a form by itself
the submitter, and a form with a text the user who is found by it. -/
inductive Means (s : Resolver) : String → Option User → Prop
  | submitter (what : Attribute) : Means s what.form (s.submitter.bind s.directory.user?)
  | named (what : Attribute) (text : String) :
      Means s (what.form ++ ":" ++ text) (s.directory.findUser? what (Text.trimText text))

theorem resolveOne_userRole (s : Resolver) (template : Option String) (id : String) :
    s.resolveOne template (userRole id) = .ok [userRole id] := by
  unfold resolveOne
  rw [userOfRole?_userRole]
  rfl

/-- A value that names a user and is no pseudo role is missed if the directory knows nobody like
that. -/
theorem resolveOne_of_means (h : s.Means value none) (hpseudo : userOfRole? value = none) :
    s.resolveOne template value = .error (.user value template) := by
  unfold resolveOne
  rw [hpseudo]
  generalize hnone : (none : Option User) = user at h
  cases h with
  | submitter what =>
      simp only [userForm?_form, ← hnone]
      rfl
  | named what text =>
      simp only [userForm?_form_append, ← hnone]
      rfl

theorem eq_of_missed {missed : String}
    (h : s.resolveOne template value = .error (.user missed template)) : value = missed := by
  unfold resolveOne at h
  split at h
  · cases h
  · split at h
    · simp only at h
      split at h
      · cases h
      · cases h
        rfl
    · split at h
      · cases h
      · split at h <;> cases h

/-- **The roles of a value are there,** unless it is a pseudo role already, which stands for
itself. -/
theorem resolveOne_backs (h : s.resolveOne template value = .ok roles) :
    (∃ id, value = userRole id) ∧ roles = [value] ∨ ∀ role ∈ roles, s.Backs role := by
  unfold resolveOne at h
  split at h
  · next hpseudo =>
    cases h
    obtain ⟨id, hid⟩ := Option.isSome_iff_exists.mp hpseudo
    exact Or.inl ⟨⟨id, userOfRole?_eq_some hid⟩, rfl⟩
  · refine Or.inr ?_
    split at h
    · next what argument _ =>
      simp only at h
      split at h
      · next u hu =>
        cases h
        have hknown : s.directory.user? u.id = some u := by
          cases argument with
          | some text => exact Directory.known_of_findUser? hu
          | none =>
              obtain ⟨id, _, hid⟩ := Option.bind_eq_some_iff.mp hu
              exact (Keyed.key_of_get? hid).symm ▸ hid
        intro role hrole
        obtain rfl := List.mem_singleton.mp hrole
        exact .user hknown
      · cases h
    · split at h
      · next found hbucket =>
        cases h
        exact fun role hrole => .function hbucket hrole
      · split at h
        · next id hid =>
          cases h
          intro role hrole
          obtain rfl := List.mem_singleton.mp hrole
          obtain ⟨found, hfound, rfl, _⟩ := Directory.exists_of_lookup? hid
          exact .directory hfound
        · cases h

/-! ### All values -/

/-- The values of a specification, none if it cannot be read. -/
def valuesOf (s : Resolver) (vars : Variables) (spec : String) : List String :=
  match s.expand vars spec with
  | .ok values => values
  | .error _ => []

theorem resolve_of_mem_valuesOf (h : value ∈ s.valuesOf vars spec) :
    s.resolve vars spec = s.resolveValues (templateOf spec) (s.valuesOf vars spec) := by
  unfold valuesOf at h ⊢
  unfold resolve
  cases he : s.expand vars spec with
  | ok values => rfl
  | error miss =>
      rw [he] at h
      cases h

/-- The roles of a value, none if it is missed. -/
def rolesOne (s : Resolver) (template : Option String) (value : String) : List String :=
  match s.resolveOne template value with
  | .ok roles => roles
  | .error _ => []

/-- Why a value is missed, if it is. -/
def missOne? (s : Resolver) (template : Option String) (value : String) : Option Miss :=
  match s.resolveOne template value with
  | .ok _ => none
  | .error miss => some miss

theorem mem_rolesOne : role ∈ s.rolesOne template value ↔
    ∃ roles, s.resolveOne template value = .ok roles ∧ role ∈ roles := by
  unfold rolesOne
  cases s.resolveOne template value <;> simp

theorem missOne?_eq_some {miss : Miss} : s.missOne? template value = some miss ↔
    s.resolveOne template value = .error miss := by
  unfold missOne?
  cases s.resolveOne template value <;> simp

/-- Values resolve to their roles, without repetitions, and to their misses. -/
theorem resolveValues_eq (s : Resolver) (template : Option String) (values : List String) :
    s.resolveValues template values =
      (distinctNames (values.flatMap (s.rolesOne template)),
        values.filterMap (s.missOne? template)) := by
  unfold resolveValues
  simp only [List.flatMap_map, List.filterMap_map]
  rfl

theorem mem_resolveValues : role ∈ (s.resolveValues template values).1 ↔
    ∃ value ∈ values, ∃ roles, s.resolveOne template value = .ok roles ∧ role ∈ roles := by
  rw [resolveValues_eq]
  simp only [mem_distinctNames, List.mem_flatMap, mem_rolesOne]

theorem miss_mem_resolveValues {miss : Miss} : miss ∈ (s.resolveValues template values).2 ↔
    ∃ value ∈ values, s.resolveOne template value = .error miss := by
  rw [resolveValues_eq]
  simp only [List.mem_filterMap, missOne?_eq_some]

theorem mem_resolve : role ∈ (s.resolve vars spec).1 ↔
    ∃ value ∈ s.valuesOf vars spec, ∃ roles,
      s.resolveOne (templateOf spec) value = .ok roles ∧ role ∈ roles := by
  unfold resolve valuesOf
  cases s.expand vars spec with
  | ok values => exact mem_resolveValues
  | error miss => simp

/-- What is resolved without a complaint is what is resolved at all. -/
theorem resolveSome_eq_ok (h : s.resolveSome vars spec = .ok roles) :
    roles = (s.resolve vars spec).1 := by
  unfold resolveSome at h
  split at h
  · cases h
  · next hresolve =>
    cases h
    rw [hresolve]

theorem userRole_not_missed {id : String} :
    Miss.user (userRole id) template ∉ (s.resolveValues template values).2 := by
  rw [miss_mem_resolveValues]
  rintro ⟨value, _, hmiss⟩
  rw [eq_of_missed hmiss, resolveOne_userRole] at hmiss
  cases hmiss

/-! ### Users behind roles -/

/-- The users behind a role are users of the directory: the one of a pseudo role, or those who hold
the role. -/
theorem mem_usersOfRole : u ∈ s.usersOfRole role ↔ s.directory.user? u.id = some u ∧
    (role = userRole u.id ∨ userOfRole? role = none ∧ s.directory.holds u.id role = true) := by
  unfold usersOfRole
  cases hrole : userOfRole? role with
  | some id =>
      obtain rfl := userOfRole?_eq_some hrole
      simp only [Option.mem_toList]
      constructor
      · intro hu
        obtain rfl : u.id = id := Keyed.key_of_get? hu
        exact ⟨hu, Or.inl rfl⟩
      · rintro ⟨hu, hid | ⟨hnone, _⟩⟩
        · rw [userRole_injective hid]
          exact hu
        · cases hnone
  | none =>
      simp only [Directory.mem_members_iff]
      refine and_congr_right fun hu => ?_
      rw [Directory.holds_of_user? hu]
      refine ⟨fun hholds => Or.inr ⟨trivial, hholds⟩, ?_⟩
      rintro (hid | ⟨_, hholds⟩)
      · exact absurd hid (userOfRole?_eq_none_iff.mp hrole u.id)
      · exact hholds

/-- Users whom the directory knows are added up: no two of them have the same identifier. -/
theorem mem_addUsers {users more : List User}
    (husers : ∀ v ∈ users, s.directory.user? v.id = some v)
    (hmore : ∀ v ∈ more, s.directory.user? v.id = some v) :
    u ∈ addUsers users more ↔ u ∈ users ∨ u ∈ more := by
  unfold addUsers
  rw [mem_foldl_collect (G := fun v => s.directory.user? v.id = some v) (P := fun v u => u = v)
    husers]
  · simp
  · rintro v hv _ rfl
    exact hmore _ hv
  · intro last hlast seen hknown u
    split
    · next hseen =>
      obtain ⟨v, hv, hid⟩ := List.any_eq_true.mp hseen
      refine ⟨Or.inl, fun h => h.elim id ?_⟩
      rintro rfl
      have hsame := hknown v hv
      rw [of_decide_eq_true hid, hmore u hlast] at hsame
      cases hsame
      exact hv
    · rw [List.mem_append, List.mem_singleton]

theorem mem_usersOf : u ∈ s.usersOf roles ↔ ∃ role ∈ roles, u ∈ s.usersOfRole role := by
  have known (role : String) : ∀ v ∈ s.usersOfRole role, s.directory.user? v.id = some v :=
    fun v hv => (mem_usersOfRole.mp hv).1
  unfold usersOf
  rw [mem_foldl_collect (G := fun v => s.directory.user? v.id = some v)
    (P := fun role u => u ∈ s.usersOfRole role)]
  · simp
  · simp
  · exact fun role _ v hv => known role v hv
  · exact fun role _ users husers v => mem_addUsers husers (known role)

/-! ### What comes out -/

/-- **What comes out of a specification is there, but for the pseudo roles that went in.**  Each
role that a specification resolves to is in the directory, among the roles of a function of the
record or the pseudo role of a user of the directory, or it is a value of the specification and a
pseudo role as it stands.  So all of them are there exactly if those values are.  A value that names
a user in any of the forms, where the directory knows nobody like that, is missed unless it is a
pseudo role as it stands. -/
theorem resolve_tells (s : Resolver) (vars : Variables) (spec : String) :
    (∀ role ∈ (s.resolve vars spec).1,
        s.Backs role ∨ role ∈ s.valuesOf vars spec ∧ ∃ id, role = userRole id) ∧
      ((∀ role ∈ (s.resolve vars spec).1, s.Backs role) ↔
        ∀ id, userRole id ∈ s.valuesOf vars spec → s.Backs (userRole id)) ∧
      (∀ value ∈ s.valuesOf vars spec, s.Means value none →
        (Miss.user value (templateOf spec) ∈ (s.resolve vars spec).2 ↔ ∀ id, value ≠ userRole id)) ∧
      ∀ roles, s.resolveSome vars spec = .ok roles → roles = (s.resolve vars spec).1 := by
  have hroles : ∀ role ∈ (s.resolve vars spec).1,
      s.Backs role ∨ role ∈ s.valuesOf vars spec ∧ ∃ id, role = userRole id := by
    intro role hrole
    obtain ⟨value, hvalue, roles, hone, hmem⟩ := mem_resolve.mp hrole
    rcases resolveOne_backs hone with ⟨hpseudo, rfl⟩ | hbacks
    · obtain rfl := List.mem_singleton.mp hmem
      exact Or.inr ⟨hvalue, hpseudo⟩
    · exact Or.inl (hbacks role hmem)
  refine ⟨hroles, ⟨fun hall id hid => ?_, fun hall role hrole => ?_⟩,
    fun value hvalue hmeans => ?_, fun roles => resolveSome_eq_ok⟩
  · exact hall _ (mem_resolve.mpr
      ⟨_, hid, _, s.resolveOne_userRole _ id, List.mem_singleton_self _⟩)
  · rcases hroles role hrole with hbacks | ⟨hvalue, id, rfl⟩
    · exact hbacks
    · exact hall id hvalue
  · rw [resolve_of_mem_valuesOf hvalue]
    constructor
    · rintro hmiss id rfl
      exact userRole_not_missed hmiss
    · intro hpseudo
      exact miss_mem_resolveValues.mpr
        ⟨value, hvalue, resolveOne_of_means hmeans (userOfRole?_eq_none_iff.mpr hpseudo)⟩

end Resolver

namespace Sample

/-- The resolver of a directory without anybody, for a record without a submitter. -/
def stranger : Resolver := ⟨.empty, .default, none, ∅, false⟩

end Sample

/-- **A user whom the directory does not know may come out.**  Nobody is looked up for a pseudo
role: it resolves to itself and is not missed, though its form means nobody.  In every other form
the same user is missed. -/
theorem Resolver.resolve_conjures :
    Sample.stranger.resolve (fun _ => none) "_user:ghost" = (["_user:ghost"], []) ∧
      Sample.stranger.resolveSome (fun _ => none) "_user:ghost" = .ok ["_user:ghost"] ∧
      ¬ Sample.stranger.Backs "_user:ghost" ∧ Sample.stranger.Means "_user:ghost" none ∧
      Sample.stranger.resolve (fun _ => none) "_user_name:ghost" =
        ([], [.user "_user_name:ghost" none]) := by
  refine ⟨by decide +kernel, by decide +kernel, fun hbacks => ?_, .named .id "ghost",
    by decide +kernel⟩
  generalize hrole : "_user:ghost" = role at hbacks
  cases hbacks with
  | directory hmem => cases hmem
  | function hbucket => cases hbucket
  | user hknown => cases hknown

end Docket
