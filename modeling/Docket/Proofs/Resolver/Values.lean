import Docket.Proofs.Json.Text
import Docket.Proofs.Resolver
import Mathlib.Data.List.Induction
import Mathlib.Data.List.Nodup

/-! # A bad value hides no good one

A specification stands for values, and each of them is resolved by itself: its roles are gathered if
it has any meaning, and else it is missed.

* `FirstOccurrences` says that names are listed once each, in order of their first occurrence.  There
  is one such list (`FirstOccurrences.unique`), and it may be made up piece by piece
  (`distinctNames_flatMap`).
* `Json.Leaves` says what is left of a value without the lists around it, at any depth.
* `Resolver.Gathers` says what becomes of values one after the other.
* `Resolver.resolve_gathers` puts it together: what a specification resolves to, what is missed, and
  when it fails. -/

namespace Docket

open Expression (Variables)

/-! ### First occurrences -/

/-- `names` are the names of `all`, each of them once, in order of their first occurrence. -/
structure FirstOccurrences (all names : List String) : Prop where
  nodup : names.Nodup
  mem_iff : ∀ name, name ∈ names ↔ name ∈ all
  ordered : names.Pairwise fun a b => all.idxOf a < all.idxOf b

namespace FirstOccurrences

variable {all names names' : List String} {name : String}

theorem unique (h : FirstOccurrences all names) (h' : FirstOccurrences all names') :
    names = names' := by
  have hperm : names.Perm names' :=
    (List.perm_ext_iff_of_nodup h.nodup h'.nodup).mpr fun name =>
      (h.mem_iff name).trans (h'.mem_iff name).symm
  exact hperm.eq_of_pairwise (fun _ _ _ _ hlt hlt' => absurd hlt (Nat.lt_asymm hlt'))
    h.ordered h'.ordered

theorem ordered_append (h : FirstOccurrences all names) (more : List String) :
    names.Pairwise fun a b => (all ++ more).idxOf a < (all ++ more).idxOf b := by
  refine h.ordered.imp_of_mem fun ha hb hlt => ?_
  rw [List.idxOf_append_of_mem ((h.mem_iff _).mp ha), List.idxOf_append_of_mem ((h.mem_iff _).mp hb)]
  exact hlt

theorem concat_of_mem (h : FirstOccurrences all names) (hmem : name ∈ all) :
    FirstOccurrences (all ++ [name]) names where
  nodup := h.nodup
  mem_iff other := by
    rw [List.mem_append, List.mem_singleton, h.mem_iff]
    refine ⟨Or.inl, fun hor => hor.elim id ?_⟩
    rintro rfl
    exact hmem
  ordered := h.ordered_append [name]

theorem concat_of_notMem (h : FirstOccurrences all names) (hmem : name ∉ all) :
    FirstOccurrences (all ++ [name]) (names ++ [name]) where
  nodup := by
    rw [← List.concat_eq_append]
    exact h.nodup.concat (mt (h.mem_iff name).mp hmem)
  mem_iff other := by
    rw [List.mem_append, List.mem_append, h.mem_iff]
  ordered := by
    refine List.pairwise_append.mpr ⟨h.ordered_append [name], List.pairwise_singleton _ _, ?_⟩
    intro a ha b hb
    have hall : a ∈ all := (h.mem_iff a).mp ha
    rw [List.mem_singleton.mp hb, List.idxOf_append_of_mem hall, List.idxOf_append_of_notMem hmem]
    exact Nat.lt_of_lt_of_le (List.idxOf_lt_length_of_mem hall) (Nat.le_add_right ..)

end FirstOccurrences

theorem collect_append (seen names more : List String) :
    collect seen (names ++ more) = collect (collect seen names) more := List.foldl_append

theorem collect_concat_of_mem {name : String} {seen names : List String}
    (h : name ∈ seen ∨ name ∈ names) : collect seen (names ++ [name]) = collect seen names := by
  rw [collect_append]
  exact if_pos (mem_collect.mpr h)

theorem collect_concat_of_notMem {name : String} {seen names : List String}
    (h : ¬ (name ∈ seen ∨ name ∈ names)) :
    collect seen (names ++ [name]) = collect seen names ++ [name] := by
  rw [collect_append]
  exact if_neg (mt mem_collect.mp h)

/-- **Distinct names are listed in order of their first occurrence.** -/
theorem firstOccurrences_distinctNames (all : List String) :
    FirstOccurrences all (distinctNames all) := by
  show FirstOccurrences all (collect [] all)
  induction all using List.reverseRecOn with
  | nil => exact ⟨List.nodup_nil, fun _ => Iff.rfl, .nil⟩
  | append_singleton all name ih =>
      by_cases hmem : name ∈ all
      · rw [collect_concat_of_mem (Or.inr hmem)]
        exact ih.concat_of_mem hmem
      · rw [collect_concat_of_notMem (by simpa using hmem)]
        exact ih.concat_of_notMem hmem

theorem collect_distinctNames (seen names : List String) :
    collect seen (distinctNames names) = collect seen names := by
  show collect seen (collect [] names) = _
  induction names using List.reverseRecOn with
  | nil => rfl
  | append_singleton names name ih =>
      by_cases hmem : name ∈ names
      · rw [collect_concat_of_mem (Or.inr hmem), ih, collect_concat_of_mem (Or.inr hmem)]
      · rw [collect_concat_of_notMem (by simpa using hmem), collect_append, ih, collect_append]

/-- **Repetitions may be left out of the pieces first.** -/
theorem distinctNames_flatMap {α : Type} (items : List α) (f : α → List String) :
    distinctNames (items.flatMap fun a => distinctNames (f a)) = distinctNames (items.flatMap f) := by
  suffices h : ∀ seen, collect seen (items.flatMap fun a => distinctNames (f a)) =
      collect seen (items.flatMap f) from h []
  induction items with
  | nil => exact fun _ => rfl
  | cons a rest ih =>
      intro seen
      rw [List.flatMap_cons, List.flatMap_cons, collect_append, collect_append,
        collect_distinctNames, ih]

/-! ### Values without the lists around them -/

/-- The leaves of a value from left to right: of a list those of its items, and any other value by
itself. -/
inductive Json.Leaves : Json → List Json → Prop
  | leaf {j : Json} : (∀ items, j ≠ .arr items) → Leaves j [j]
  | nil : Leaves (.arr []) []
  | cons {j : Json} {rest first others : List Json} : Leaves j first → Leaves (.arr rest) others →
      Leaves (.arr (j :: rest)) (first ++ others)

mutual

theorem Json.exists_leaves : ∀ j : Json, ∃ leaves, j.Leaves leaves
  | .arr items => exists_leaves_arr items
  | .null | .bool _ | .num _ | .str _ | .obj _ => ⟨_, .leaf nofun⟩

theorem Json.exists_leaves_arr : ∀ items : List Json, ∃ leaves, (Json.arr items).Leaves leaves
  | [] => ⟨[], .nil⟩
  | j :: rest => by
      obtain ⟨first, hfirst⟩ := exists_leaves j
      obtain ⟨others, hothers⟩ := exists_leaves_arr rest
      exact ⟨first ++ others, hfirst.cons hothers⟩

end

/-- **Lists are flattened to any depth,** from left to right. -/
theorem Json.Leaves.flatten_eq {j : Json} {leaves : List Json} (h : j.Leaves leaves)
    (split : Bool) : flatten split j = leaves.flatMap (flatten split) := by
  induction h with
  | leaf => rw [List.flatMap_singleton]
  | nil => rw [flatten, flattenItems, List.flatMap_nil]
  | cons _ _ ih ih' =>
      rw [flatten] at ih' ⊢
      rw [flattenItems, ih, ih', List.flatMap_append]

theorem flatten_arr (split : Bool) (items : List Json) :
    flatten split (.arr items) = items.flatMap (flatten split) := by
  rw [flatten]
  induction items with
  | nil => rw [flattenItems, List.flatMap_nil]
  | cons j rest ih => rw [flattenItems, ih, List.flatMap_cons]

theorem notMem_textValues (split : Bool) (s : String) : "" ∉ textValues split s := by
  unfold textValues
  simp only [List.mem_map, List.mem_filter, not_exists, not_and]
  rintro piece ⟨_, hpiece⟩ hempty
  obtain rfl : piece = [] := String.ofList_eq_empty_iff.mp hempty
  cases hpiece

/-- **No value is the empty text.** -/
theorem notMem_flatten (split : Bool) (j : Json) : "" ∉ flatten split j := by
  obtain ⟨leaves, hleaves⟩ := j.exists_leaves
  induction hleaves with
  | @leaf j hleaf =>
      cases j with
      | arr items => exact absurd rfl (hleaf items)
      | str s => exact notMem_textValues split s
      | null => exact List.not_mem_nil
      | bool _ | num _ | obj _ =>
          rw [flatten, List.mem_singleton, eq_comm, Json.text_eq_empty_iff]
          simp
  | nil => exact List.not_mem_nil
  | cons _ _ ih ih' =>
      rw [flatten] at ih' ⊢
      rw [flattenItems, List.mem_append]
      exact not_or.mpr ⟨ih, ih'⟩

namespace Resolver

variable {s : Resolver} {vars : Variables} {spec : String} {values : List String} {miss : Miss}

/-! ### Values one after the other -/

/-- What becomes of values one after the other: the roles of those that resolve, and one miss for
each of the others. -/
inductive Gathers (s : Resolver) (template : Option String) :
    List String → List String → List Miss → Prop
  | nil : Gathers s template [] [] []
  | found {value : String} {roles values all : List String} {misses : List Miss} :
      s.resolveOne template value = .ok roles → Gathers s template values all misses →
      Gathers s template (value :: values) (roles ++ all) misses
  | missed {value : String} {miss : Miss} {values all : List String} {misses : List Miss} :
      s.resolveOne template value = .error miss → Gathers s template values all misses →
      Gathers s template (value :: values) all (miss :: misses)

theorem gathers_values (s : Resolver) (template : Option String) (values : List String) :
    s.Gathers template values (values.flatMap (s.rolesOne template))
      (values.filterMap (s.missOne? template)) := by
  induction values with
  | nil => exact .nil
  | cons value rest ih =>
      rw [List.flatMap_cons, List.filterMap_cons]
      unfold rolesOne missOne?
      cases hone : s.resolveOne template value with
      | ok roles => exact .found hone ih
      | error miss => exact .missed hone ih

/-! ### Specifications -/

theorem expand_eq (s : Resolver) (vars : Variables) (spec : String) :
    s.expand vars spec = match s.rules.render vars spec with
      | .ok v => .ok (flatten s.split v)
      | .error e => .error (.unreadable spec e) := by
  unfold expand
  split
  · rfl
  · next hplain =>
    unfold Expression.Rules.render
    rw [if_neg hplain]

theorem expand_eq_ok_iff : s.expand vars spec = .ok values ↔
    ∃ v, s.rules.render vars spec = .ok v ∧ flatten s.split v = values := by
  rw [expand_eq]
  cases s.rules.render vars spec with
  | ok v => simp
  | error e => simp

theorem resolve_of_expand (h : s.expand vars spec = .ok values) :
    s.resolve vars spec = s.resolveValues (templateOf spec) values := by
  unfold resolve
  rw [h]

theorem resolve_of_error (h : s.expand vars spec = .error miss) :
    s.resolve vars spec = ([], [miss]) := by
  unfold resolve
  rw [h]

/-- What a value that was read from a specification resolves to. -/
def resolveItem (s : Resolver) (template : Option String) (j : Json) : List String × List Miss :=
  s.resolveValues template (flatten s.split j)

theorem resolve_of_render {v : Json} (h : s.rules.render vars spec = .ok v) :
    s.resolve vars spec = s.resolveItem (templateOf spec) v :=
  resolve_of_expand (expand_eq_ok_iff.mpr ⟨v, h, rfl⟩)

/-- **A list resolves to what its items resolve to,** one after the other and without
repetitions. -/
theorem resolveItem_arr (s : Resolver) (template : Option String) (items : List Json) :
    s.resolveItem template (.arr items) =
      (distinctNames (items.flatMap fun j => (s.resolveItem template j).1),
        items.flatMap fun j => (s.resolveItem template j).2) := by
  unfold resolveItem
  rw [resolveValues_eq, flatten_arr]
  simp only [resolveValues_eq]
  rw [distinctNames_flatMap, List.flatMap_assoc, List.filterMap_flatMap]

theorem resolveSome_eq_error_iff : s.resolveSome vars spec = .error miss ↔
    (s.resolve vars spec).1 = [] ∧ (s.resolve vars spec).2.head? = some miss := by
  unfold resolveSome
  rcases s.resolve vars spec with ⟨_ | ⟨role, roles⟩, _ | ⟨first, misses⟩⟩ <;> simp

theorem resolveSome_eq_ok_iff {roles : List String} : s.resolveSome vars spec = .ok roles ↔
    (s.resolve vars spec).1 = roles ∧ (roles = [] → (s.resolve vars spec).2 = []) := by
  unfold resolveSome
  rcases s.resolve vars spec with ⟨_ | ⟨role, found⟩, _ | ⟨first, misses⟩⟩
  case nil.nil | nil.cons | cons.nil => simp
  case cons.cons =>
    simp only [Except.ok.injEq, iff_self_and]
    rintro rfl hnil
    cases hnil

/-- **A bad value hides no good one.**  If the values of a specification cannot be read, nothing
comes out of it but this one miss.  Otherwise every value that resolves adds its roles, each role is
listed once in order of its first occurrence, and every other value is missed once, in order.  A
specification fails exactly if something is missed and there is no role, with the first miss.  Its
values are those of the leaves of what it renders to, from left to right; and a list resolves to what
its items resolve to by themselves, one after the other and without repetitions. -/
theorem resolve_gathers (s : Resolver) (vars : Variables) (spec : String) :
    (∀ miss, s.expand vars spec = .error miss → s.resolve vars spec = ([], [miss])) ∧
    (∀ values, s.expand vars spec = .ok values → ∃ all,
      s.Gathers (templateOf spec) values all (s.resolve vars spec).2 ∧
      FirstOccurrences all (s.resolve vars spec).1) ∧
    (∀ miss, s.resolveSome vars spec = .error miss ↔
      (s.resolve vars spec).1 = [] ∧ (s.resolve vars spec).2.head? = some miss) ∧
    (∀ roles, s.resolveSome vars spec = .ok roles ↔
      (s.resolve vars spec).1 = roles ∧ (roles = [] → (s.resolve vars spec).2 = [])) ∧
    (∀ values, s.expand vars spec = .ok values ↔ ∃ v leaves, s.rules.render vars spec = .ok v ∧
      v.Leaves leaves ∧ leaves.flatMap (flatten s.split) = values) ∧
    ∀ items, s.rules.render vars spec = .ok (.arr items) →
      FirstOccurrences (items.flatMap fun j => (s.resolveItem (templateOf spec) j).1)
        (s.resolve vars spec).1 ∧
      (s.resolve vars spec).2 = items.flatMap fun j => (s.resolveItem (templateOf spec) j).2 := by
  refine ⟨fun miss => resolve_of_error, fun values hvalues => ?_,
    fun miss => resolveSome_eq_error_iff, fun roles => resolveSome_eq_ok_iff, fun values => ?_,
    fun items hitems => ?_⟩
  · rw [resolve_of_expand hvalues, resolveValues_eq]
    exact ⟨_, s.gathers_values (templateOf spec) values, firstOccurrences_distinctNames _⟩
  · rw [expand_eq_ok_iff]
    constructor
    · rintro ⟨v, hv, rfl⟩
      obtain ⟨leaves, hleaves⟩ := v.exists_leaves
      exact ⟨v, leaves, hv, hleaves, (hleaves.flatten_eq s.split).symm⟩
    · rintro ⟨v, leaves, hv, hleaves, rfl⟩
      exact ⟨v, hv, hleaves.flatten_eq s.split⟩
  · rw [resolve_of_render hitems, resolveItem_arr]
    exact ⟨firstOccurrences_distinctNames _, rfl⟩

end Resolver

namespace Sample

/-- A directory with two roles. -/
def callCentre : Resolver :=
  ⟨⟨[⟨"r-1", "Agents", "agents"⟩, ⟨"r-2", "Managers", "managers"⟩], ∅⟩, .default, none, ∅, false⟩

/-- Teams in a list in a list, one of which nobody knows. -/
def teams : List Json := [.arr [.str "agents", .str "ghosts"], .str "Managers", .str "r-1"]

/-- The teams as a variable. -/
def teamsBound : Variables := fun name => if name = "teams" then some (.arr teams) else none

end Sample

/-- The team that nobody knows is missed, and the others are found, each of them once. -/
theorem Resolver.resolve_gathers_sample :
    Sample.callCentre.resolve Sample.teamsBound "{{ teams }}" =
        (["r-1", "r-2"], [.role "ghosts" (some "{{ teams }}")]) ∧
      (∃ all, Sample.callCentre.Gathers (some "{{ teams }}") ["agents", "ghosts", "Managers", "r-1"]
          all [.role "ghosts" (some "{{ teams }}")] ∧ FirstOccurrences all ["r-1", "r-2"]) ∧
      FirstOccurrences ["r-1", "r-2", "r-1"] ["r-1", "r-2"] := by
  have hresolve : Sample.callCentre.resolve Sample.teamsBound "{{ teams }}" =
      (["r-1", "r-2"], [.role "ghosts" (some "{{ teams }}")]) := by decide +kernel
  have hexpand : Sample.callCentre.expand Sample.teamsBound "{{ teams }}" =
      .ok ["agents", "ghosts", "Managers", "r-1"] := by decide +kernel
  have hrender : Sample.callCentre.rules.render Sample.teamsBound "{{ teams }}" =
      .ok (.arr Sample.teams) := by decide +kernel
  obtain ⟨_, hvalues, _, _, _, hitems⟩ :=
    Sample.callCentre.resolve_gathers Sample.teamsBound "{{ teams }}"
  refine ⟨hresolve, ?_, ?_⟩
  · have hgathers := hvalues _ hexpand
    rw [hresolve] at hgathers
    exact hgathers
  · obtain ⟨hfirst, _⟩ := hitems Sample.teams hrender
    rw [hresolve] at hfirst
    exact hfirst

end Docket
