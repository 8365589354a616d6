import Docket.Dispatch
import Docket.Proofs.Directory
import Mathlib.Data.Finset.Basic
import Mathlib.Data.Finset.Lattice.Lemmas

/-! # Dispatch as set algebra

The names of a set make up a finite set (`NameSet.toFinset`), and sets with the same names are equal.
In these terms a dispatch puts the roles of a function in the place of the old ones, adds them or
takes them away: `DispatchMode.on`.

* `Buckets.Filled` says that every function that has an entry has roles.  Then the entries are
  determined by the roles of the functions (`Buckets.Filled.ext`), and a dispatch of any roles keeps
  it so (`Buckets.Filled.dispatch`).
* `Buckets.Routes` is all that a dispatch does, and `Buckets.Filled.routes` proves it. -/

namespace Docket

/-! ### Names as a finite set -/

namespace NameSet

variable {s t : NameSet} {name : String}

def toFinset (s : NameSet) : Finset String := s.items.toFinset

theorem mem_toFinset : name ∈ s.toFinset ↔ s.contains name = true := by
  unfold toFinset
  rw [List.mem_toFinset, mem_items_iff]

theorem toFinset_injective : Function.Injective toFinset := by
  intro s t h
  have hcontains : ∀ name, s.contains name = t.contains name := fun name => by
    rw [Bool.eq_iff_iff, ← mem_toFinset, ← mem_toFinset, h]
  refine Keyed.ext_get? fun name => ?_
  have hname := hcontains name
  rw [Keyed.contains_eq, Keyed.contains_eq] at hname
  -- a name is found as itself
  cases hs : s.get? name with
  | none =>
      rw [hs, Option.isSome_none, eq_comm, Option.isSome_eq_false_iff, Option.isNone_iff_eq_none]
        at hname
      exact hname.symm
  | some a =>
      rw [hs, Option.isSome_some, eq_comm, Option.isSome_iff_exists] at hname
      obtain ⟨b, hb⟩ := hname
      have ha : a = name := Keyed.key_of_get? hs
      have hb' : b = name := Keyed.key_of_get? hb
      rw [hb, ha, hb']

theorem toFinset_eq_empty_iff : s.toFinset = ∅ ↔ s.isEmpty = true := by
  unfold toFinset Keyed.isEmpty
  rw [List.toFinset_eq_empty_iff, List.isEmpty_iff]

@[simp] theorem toFinset_empty : (∅ : NameSet).toFinset = ∅ := rfl

theorem toFinset_insert : toFinset (s.insert name) = insert name s.toFinset := by
  ext other
  rw [mem_toFinset, contains_insert, Finset.mem_insert, mem_toFinset, Bool.or_eq_true,
    decide_eq_true_iff, eq_comm]

theorem toFinset_erase : toFinset (s.erase name) = s.toFinset.erase name := by
  ext other
  rw [mem_toFinset, contains_erase, Finset.mem_erase, mem_toFinset, Bool.and_eq_true,
    decide_eq_true_iff]

theorem toFinset_addAll (names : List String) :
    toFinset (s.addAll names) = s.toFinset ∪ names.toFinset := by
  unfold addAll
  induction names generalizing s with
  | nil => simp
  | cons name rest ih =>
      rw [List.foldl_cons, ih, toFinset_insert, List.toFinset_cons, Finset.insert_union,
        Finset.union_insert]

theorem toFinset_eraseAll (names : List String) :
    toFinset (s.eraseAll names) = s.toFinset \ names.toFinset := by
  unfold eraseAll
  induction names generalizing s with
  | nil => simp
  | cons name rest ih =>
      rw [List.foldl_cons, ih, toFinset_erase, List.toFinset_cons, Finset.sdiff_insert,
        Finset.erase_sdiff_comm]

theorem toFinset_ofList (names : List String) :
    toFinset (Keyed.ofList names) = names.toFinset :=
  (toFinset_addAll (s := ∅) names).trans (Finset.empty_union _)

end NameSet

theorem Table.ext_value? {α : Type} {t t' : Table α} (h : ∀ name, t.value? name = t'.value? name) :
    t = t' := by
  refine Keyed.ext_get? fun name => ?_
  have hname := h name
  unfold value? at hname
  cases ht : t.get? name with
  | none =>
      rw [ht, Option.map_none, eq_comm, Option.map_eq_none_iff] at hname
      exact hname.symm
  | some e =>
      rw [ht, Option.map_some, eq_comm, Option.map_eq_some_iff] at hname
      obtain ⟨e', he', hsnd⟩ := hname
      have hfst : e'.1 = e.1 := (Keyed.key_of_get? he').trans (Keyed.key_of_get? ht).symm
      rw [he', Prod.ext hfst hsnd]

/-! ### One function -/

/-- What a dispatch makes of the roles that a function has. -/
def DispatchMode.on (given held : Finset String) : DispatchMode → Finset String
  | .set => given
  | .add => held ∪ given
  | .remove => held \ given

theorem DispatchMode.on_on (mode : DispatchMode) (given held : Finset String) :
    mode.on given (mode.on given held) = mode.on given held := by
  cases mode with
  | set => rfl
  | add => exact (Finset.union_assoc ..).trans (congrArg _ (Finset.union_self given))
  | remove => exact Finset.sdiff_idem held given

namespace Buckets

variable {b b' : Buckets} {function other : String} {mode : DispatchMode} {roles : List String}

/-- The roles of a function, none if it has no entry. -/
def roleSet (b : Buckets) (function : String) : Finset String := (b.rolesOf function).toFinset

/-- Every function that has an entry has roles. -/
def Filled (b : Buckets) : Prop :=
  ∀ function roles, b.value? function = some roles → roles.toFinset ≠ ∅

theorem roleSet_of_value? {held : NameSet} (h : b.value? function = some held) :
    b.roleSet function = held.toFinset := by
  unfold roleSet rolesOf
  rw [h]
  rfl

theorem roleSet_of_none (h : b.value? function = none) : b.roleSet function = ∅ := by
  unfold roleSet rolesOf
  rw [h]
  rfl

theorem filled_empty : Filled ∅ := fun function roles h => by
  rw [Table.value?_empty] at h
  cases h

namespace Filled

theorem value?_eq_none_iff (h : b.Filled) :
    b.value? function = none ↔ b.roleSet function = ∅ := by
  refine ⟨roleSet_of_none, fun hempty => ?_⟩
  cases hv : b.value? function with
  | none => rfl
  | some held =>
      rw [roleSet_of_value? hv] at hempty
      exact absurd hempty (h function held hv)

theorem ext (h : b.Filled) (h' : b'.Filled) (heq : ∀ function, b.roleSet function = b'.roleSet function) :
    b = b' := by
  refine Table.ext_value? fun function => ?_
  have hroles := heq function
  cases hv : b.value? function with
  | none =>
      rw [roleSet_of_none hv] at hroles
      exact (h'.value?_eq_none_iff.mpr hroles.symm).symm
  | some held =>
      cases hv' : b'.value? function with
      | none =>
          rw [roleSet_of_none hv', ← h.value?_eq_none_iff, hv] at hroles
          cases hroles
      | some held' =>
          rw [roleSet_of_value? hv, roleSet_of_value? hv'] at hroles
          rw [NameSet.toFinset_injective hroles]

end Filled

/-! ### A dispatch -/

theorem value?_dispatch_of_ne (b : Buckets) (mode : DispatchMode) (roles : List String)
    (h : other ≠ function) :
    (b.dispatch function mode roles).value? other = b.value? other := by
  have hset : ∀ held : NameSet, (Table.set function held b).value? other = b.value? other :=
    fun held => (Table.value?_set ..).trans (if_neg (Ne.symm h))
  unfold dispatch
  cases mode with
  | set => exact hset _
  | add => exact hset _
  | remove =>
      simp only
      split
      · split
        · exact (Table.value?_erase ..).trans (if_neg h)
        · exact hset _
      · rfl

theorem roleSet_dispatch_self (b : Buckets) (function : String) (mode : DispatchMode)
    (roles : List String) :
    (b.dispatch function mode roles).roleSet function =
      mode.on roles.toFinset (b.roleSet function) := by
  have hset : ∀ held : NameSet, roleSet (Table.set function held b) function = held.toFinset :=
    fun held => roleSet_of_value? ((Table.value?_set ..).trans (if_pos rfl))
  unfold dispatch
  cases mode with
  | set => rw [hset, NameSet.toFinset_ofList]; rfl
  | add => rw [hset, NameSet.toFinset_addAll]; rfl
  | remove =>
      simp only
      split
      · next held hv =>
        rw [roleSet_of_value? hv]
        split
        · next hleft =>
          rw [roleSet_of_none ((Table.value?_erase ..).trans (if_pos rfl))]
          rw [← NameSet.toFinset_eq_empty_iff, NameSet.toFinset_eraseAll] at hleft
          exact hleft.symm
        · rw [hset, NameSet.toFinset_eraseAll]
          rfl
      · next hv =>
        rw [roleSet_of_none hv]
        exact (Finset.empty_sdiff _).symm

theorem Filled.dispatch (h : b.Filled) (hroles : roles ≠ []) :
    (b.dispatch function mode roles).Filled := by
  intro other held hv
  by_cases hne : other = function
  · subst hne
    have hset : ∀ given : NameSet, (Table.set other given b).value? other = some held →
        given = held := fun given hgiven => by
      rw [Table.value?_set, if_pos rfl] at hgiven
      exact Option.some.inj hgiven
    have hgiven : roles.toFinset ≠ ∅ := mt (List.toFinset_eq_empty_iff roles).mp hroles
    unfold Buckets.dispatch at hv
    cases mode with
    | set =>
        rw [← hset _ hv, NameSet.toFinset_ofList]
        exact hgiven
    | add =>
        rw [← hset _ hv, NameSet.toFinset_addAll]
        exact fun hempty => hgiven (Finset.union_eq_empty.mp hempty).2
    | remove =>
        simp only at hv
        split at hv
        · split at hv
          · rw [Table.value?_erase, if_pos rfl] at hv
            cases hv
          · next hleft =>
            rw [← hset _ hv]
            exact mt NameSet.toFinset_eq_empty_iff.mp hleft
        · exact h other held hv
  · rw [value?_dispatch_of_ne b mode roles hne] at hv
    exact h other held hv

/-- Doing a dispatch again changes nothing. -/
theorem Filled.dispatch_dispatch (h : b.Filled) (hroles : roles ≠ []) :
    (b.dispatch function mode roles).dispatch function mode roles =
      b.dispatch function mode roles := by
  have hfirst : (b.dispatch function mode roles).Filled := h.dispatch hroles
  refine (hfirst.dispatch hroles).ext hfirst fun other => ?_
  by_cases hne : other = function
  · subst hne
    rw [roleSet_dispatch_self, roleSet_dispatch_self, mode.on_on]
  · unfold roleSet rolesOf
    rw [value?_dispatch_of_ne _ mode roles hne]

/-- `b'` is what a dispatch makes of `b`: every other function keeps its entry, the roles of the
function are those that the mode makes of them, it has an entry exactly if there are any, and the same
dispatch changes nothing any more. -/
structure Routes (b b' : Buckets) (function : String) (mode : DispatchMode) (roles : List String) :
    Prop where
  others : ∀ other, other ≠ function → b'.value? other = b.value? other
  self : b'.roleSet function = mode.on roles.toFinset (b.roleSet function)
  gone : b'.value? function = none ↔ mode.on roles.toFinset (b.roleSet function) = ∅
  filled : b'.Filled
  again : b'.dispatch function mode roles = b'

/-- **A dispatch is set algebra on one function.** -/
theorem Filled.routes (h : b.Filled) (function : String) (mode : DispatchMode) (hroles : roles ≠ []) :
    b.Routes (b.dispatch function mode roles) function mode roles where
  others _ hne := b.value?_dispatch_of_ne mode roles hne
  self := b.roleSet_dispatch_self function mode roles
  gone := by
    rw [(h.dispatch hroles).value?_eq_none_iff, roleSet_dispatch_self]
  filled := h.dispatch hroles
  again := h.dispatch_dispatch hroles

end Buckets
end Docket
