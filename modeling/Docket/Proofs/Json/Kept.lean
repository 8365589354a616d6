import Docket.Json.Reader
import Mathlib.Data.Nat.Notation

/-! # The integers of a text

An integer that is read from a text has 64 bits, with a sign or without one; a numeral beyond them
is read as a floating-point number.  `Json.Kept` says so of all integers in a value, at every depth,
and `Json.kept_of_read?` of every value that is read. -/

namespace Docket

/-- The number is a floating-point number or an integer that is kept as one. -/
def Number.Kept : Number → Prop
  | .int i => minInt ≤ i ∧ i ≤ maxInt
  | .float _ => True

namespace Json

/-- All numbers in a value are kept as they are. -/
inductive Kept : Json → Prop
  | null : Kept .null
  | bool (b : Bool) : Kept (.bool b)
  | num {n : Number} : n.Kept → Kept (.num n)
  | str (s : String) : Kept (.str s)
  | arr {items : List Json} : (∀ j ∈ items, Kept j) → Kept (.arr items)
  | obj {fields : Fields} : (∀ f ∈ fields, Kept f.2) → Kept (.obj fields)

/-! ### Numerals -/

theorem absorb_lt {n : ℕ} (h : n < Nat.pow 2 64) (ds : List Char) :
    (absorb n ds).1 < Nat.pow 2 64 := by
  induction ds generalizing n with
  | nil => exact h
  | cons d rest ih =>
      unfold absorb
      split
      · next hlt => exact ih hlt
      · exact h

theorem Parts.number?_kept {p : Parts} {n : Number} (h : p.number? = some n) : n.Kept := by
  have hlt := absorb_lt (n := 0) (by decide) p.whole
  unfold Parts.number? at h
  generalize absorb 0 p.whole = absorbed at h hlt
  obtain ⟨m, left⟩ := absorbed
  have hm : m < 18446744073709551616 := hlt
  simp only at h
  split at h
  · split at h
    · cases h
      exact ⟨by unfold Number.minInt; omega, by unfold Number.maxInt; omega⟩
    · split at h
      · cases h
        trivial
      · next hsmall =>
        have hle : ¬ (m = 0 ∨ 9223372036854775808 < m) := hsmall
        cases h
        exact ⟨by unfold Number.minInt; omega, by unfold Number.maxInt; omega⟩
  · obtain ⟨x, _, rfl⟩ := Option.map_eq_some_iff.mp h
    trivial

theorem readNumber_kept {s rest : List Char} {n : Number} (h : readNumber s = some (n, rest)) :
    n.Kept := by
  unfold readNumber at h
  obtain ⟨⟨parts, _⟩, _, h⟩ := Option.bind_eq_some_iff.mp h
  obtain ⟨m, hm, h⟩ := Option.bind_eq_some_iff.mp h
  cases h
  exact Parts.number?_kept hm

/-! ### Values -/

theorem insertField_kept {name : String} {j : Json} {fields : Fields} (hj : j.Kept)
    (h : ∀ f ∈ fields, f.2.Kept) : ∀ f ∈ insertField name j fields, f.2.Kept := by
  intro f hf
  rcases Keyed.mem_put hf with rfl | hf
  · exact hj
  · exact h f hf

/-- What is read with some fuel is kept: values, the items of lists and the fields of objects. -/
structure Keeps (fuel : ℕ) : Prop where
  value : ∀ {depth s j rest}, readValue fuel depth s = some (j, rest) → j.Kept
  items : ∀ {depth s l rest}, readItems fuel depth s = some (l, rest) → ∀ j ∈ l, j.Kept
  fields : ∀ {depth before s fields rest}, (∀ f ∈ before, f.2.Kept) →
    readFields fuel depth before s = some (fields, rest) → ∀ f ∈ fields, f.2.Kept

theorem readValue_kept {fuel depth : ℕ} (hk : Keeps fuel) {s rest : List Char} {j : Json}
    (h : readValue (fuel + 1) depth s = some (j, rest)) : j.Kept := by
  rw [readValue] at h
  split at h
  · obtain ⟨_, _, hj⟩ := Option.map_eq_some_iff.mp h
    cases hj
    exact .null
  · obtain ⟨_, _, hj⟩ := Option.map_eq_some_iff.mp h
    cases hj
    exact .bool true
  · obtain ⟨_, _, hj⟩ := Option.map_eq_some_iff.mp h
    cases hj
    exact .bool false
  · obtain ⟨_, _, hj⟩ := Option.map_eq_some_iff.mp h
    cases hj
    exact .str _
  · split at h
    · cases h
    · split at h
      · cases h
        exact .arr fun _ hmem => absurd hmem List.not_mem_nil
      · obtain ⟨⟨items, _⟩, hitems, hj⟩ := Option.map_eq_some_iff.mp h
        cases hj
        exact .arr (hk.items hitems)
  · split at h
    · cases h
    · split at h
      · cases h
        exact .obj fun _ hmem => absurd hmem List.not_mem_nil
      · obtain ⟨⟨fields, _⟩, hfields, hj⟩ := Option.map_eq_some_iff.mp h
        cases hj
        exact .obj (hk.fields (fun _ hmem => absurd hmem List.not_mem_nil) hfields)
  · split at h
    · obtain ⟨⟨n, _⟩, hn, hj⟩ := Option.map_eq_some_iff.mp h
      cases hj
      exact .num (readNumber_kept hn)
    · cases h
  · cases h

theorem readItems_kept {fuel depth : ℕ} (hk : Keeps fuel) {s rest : List Char} {l : List Json}
    (h : readItems (fuel + 1) depth s = some (l, rest)) : ∀ j ∈ l, j.Kept := by
  rw [readItems] at h
  obtain ⟨⟨x, _⟩, hx, h⟩ := Option.bind_eq_some_iff.mp h
  have hx : x.Kept := hk.value hx
  simp only at h
  split at h
  · obtain ⟨⟨xs, _⟩, hxs, h⟩ := Option.bind_eq_some_iff.mp h
    cases h
    exact List.forall_mem_cons.mpr ⟨hx, hk.items hxs⟩
  · cases h
    exact List.forall_mem_singleton.mpr hx
  · cases h

theorem readFields_kept {fuel depth : ℕ} (hk : Keeps fuel) {s rest : List Char}
    {before fields : Fields} (hbefore : ∀ f ∈ before, f.2.Kept)
    (h : readFields (fuel + 1) depth before s = some (fields, rest)) : ∀ f ∈ fields, f.2.Kept := by
  rw [readFields] at h
  split at h
  · obtain ⟨⟨name, _⟩, _, h⟩ := Option.bind_eq_some_iff.mp h
    simp only at h
    split at h
    · obtain ⟨⟨x, _⟩, hx, h⟩ := Option.bind_eq_some_iff.mp h
      have hinsert : ∀ f ∈ insertField (String.ofList name) x before, f.2.Kept :=
        insertField_kept (hk.value hx) hbefore
      simp only at h
      split at h
      · exact hk.fields hinsert h
      · cases h
        exact hinsert
      · cases h
    · cases h
  · cases h

theorem keeps (fuel : ℕ) : Keeps fuel := by
  induction fuel with
  | zero =>
      refine ⟨fun h => ?_, fun h => ?_, fun _ h => ?_⟩
      · rw [readValue] at h; cases h
      · rw [readItems] at h; cases h
      · rw [readFields] at h; cases h
  | succ fuel ih => exact ⟨readValue_kept ih, readItems_kept ih, readFields_kept ih⟩

/-- **Every integer that is read from a text is kept as one.** -/
theorem kept_of_read? {text : String} {j : Json} (h : read? text = some j) : j.Kept := by
  unfold read? at h
  obtain ⟨⟨x, _⟩, hx, h⟩ := Option.bind_eq_some_iff.mp h
  simp only at h
  split at h
  · cases h
    exact (keeps _).value hx
  · cases h

end Json
end Docket
