import Docket.Proofs.Double
import Docket.Proofs.Json.Equality

/-! # Numbers written the other way

An integer and the floating-point number of the same value are equal.  `Recast` replaces the one by
the other, at any places in a value: in a list, in a list of lists, and, where `inside` holds, also
in the fields of objects.

Equality goes on into lists, but objects are equal only if they are identical, which an integer and
a floating-point number never are.  So a value stays equal to what becomes of it exactly if nothing
was replaced inside an object (`recast_equal`), and then it may stand for it in every question of
membership in a list. -/

namespace Docket.Json

mutual

/-- The second value is the first with integers of at most `2 ^ 53` replaced by floating-point
numbers of the same value: at any places that are not inside an object, or, if `inside` holds, at
any places. -/
inductive Recast (inside : Prop) : Json → Json → Prop
  | keep (v : Json) : Recast inside v v
  | number {i : ℤ} {x : Double} :
      i.natAbs ≤ 2 ^ 53 → x.units = i * Double.one → Recast inside (.num (.int i)) (.num (.float x))
  | list {xs ys : List Json} : RecastItems inside xs ys → Recast inside (.arr xs) (.arr ys)
  | object {fs gs : Fields} : inside → RecastFields inside fs gs → Recast inside (.obj fs) (.obj gs)

/-- The items of a list, one by one. -/
inductive RecastItems (inside : Prop) : List Json → List Json → Prop
  | nil : RecastItems inside [] []
  | cons {x y : Json} {xs ys : List Json} :
      Recast inside x y → RecastItems inside xs ys → RecastItems inside (x :: xs) (y :: ys)

/-- The values of fields, one by one; their names stay. -/
inductive RecastFields (inside : Prop) : Fields → Fields → Prop
  | nil : RecastFields inside [] []
  | cons {name : String} {x y : Json} {fs gs : Fields} :
      Recast inside x y → RecastFields inside fs gs →
      RecastFields inside ((name, x) :: fs) ((name, y) :: gs)

end

variable {inside : Prop} {v w : Json}

/-! ### Identity -/

mutual

/-- What a number is replaced by is not identical to it, so where the values are identical nothing
was replaced. -/
theorem Recast.eq_of_same : ∀ {v w : Json}, Recast inside v w → same v w = true → v = w
  | .arr _, _, h, hsame => by
      cases h with
      | keep => rfl
      | list h => rw [h.eq_of_same hsame]
  | .obj _, _, h, hsame => by
      cases h with
      | keep => rfl
      | object _ h => rw [h.eq_of_same hsame]
  | .num _, _, h, hsame => by
      cases h with
      | keep => rfl
      | number => cases hsame
  | .null, _, .keep _, _ | .bool _, _, .keep _, _ | .str _, _, .keep _, _ => rfl

theorem RecastItems.eq_of_same : ∀ {xs ys : List Json},
    RecastItems inside xs ys → sameItems xs ys = true → xs = ys
  | [], _, .nil, _ => rfl
  | _ :: _, _, .cons h hs, hsame => by
      rw [sameItems, Bool.and_eq_true] at hsame
      rw [h.eq_of_same hsame.1, hs.eq_of_same hsame.2]

theorem RecastFields.eq_of_same : ∀ {fs gs : Fields},
    RecastFields inside fs gs → sameFields fs gs = true → fs = gs
  | [], _, .nil, _ => rfl
  | _ :: _, _, .cons h hs, hsame => by
      rw [sameFields, Bool.and_eq_true, Bool.and_eq_true] at hsame
      rw [h.eq_of_same hsame.2.1, hs.eq_of_same hsame.2.2]

end

/-! ### Equality -/

theorem equal_of_units {i : ℤ} {x : Double} (hi : i.natAbs ≤ 2 ^ 53)
    (hx : x.units = i * Double.one) : equal (.num (.int i)) (.num (.float x)) = true := by
  refine Number.equal_iff.mpr ?_
  show (Double.ofInt i).units = x.units
  rw [Double.ofInt_units, Double.rounded_eq_self hi, hx]

mutual

/-- Where nothing is replaced inside an object, equality follows every replacement. -/
theorem Recast.equal : ∀ {v w : Json}, Recast False v w → equal v w = true
  | .arr _, _, h => by
      cases h with
      | keep => exact equal_refl _
      | list h => exact h.equal
  | .num _, _, h => by
      cases h with
      | keep => exact equal_refl _
      | number hi hx => exact equal_of_units hi hx
  | .obj _, _, h => by
      cases h with
      | keep => exact equal_refl _
      | object hfalse => exact hfalse.elim
  | .null, _, .keep _ | .bool _, _, .keep _ | .str _, _, .keep _ => equal_refl _

theorem RecastItems.equal : ∀ {xs ys : List Json}, RecastItems False xs ys → equalItems xs ys = true
  | [], _, .nil => rfl
  | _ :: _, _, .cons h hs => by
      rw [equalItems, h.equal, hs.equal]
      rfl

end

mutual

/-- Where the values are equal, nothing was replaced inside an object. -/
theorem Recast.outside : ∀ {v w : Json},
    Recast inside v w → Json.equal v w = true → Recast False v w
  | .arr _, _, h, hequal => by
      cases h with
      | keep => exact .keep _
      | list h => exact .list (h.outside hequal)
  | .num _, _, h, _ => by
      cases h with
      | keep => exact .keep _
      | number hi hx => exact .number hi hx
  | .obj _, _, h, hequal => by
      rw [h.eq_of_same hequal]
      exact .keep _
  | .null, _, .keep _, _ | .bool _, _, .keep _, _ | .str _, _, .keep _, _ => .keep _

theorem RecastItems.outside : ∀ {xs ys : List Json},
    RecastItems inside xs ys → equalItems xs ys = true → RecastItems False xs ys
  | [], _, .nil, _ => .nil
  | _ :: _, _, .cons h hs, hequal => by
      rw [equalItems, Bool.and_eq_true] at hequal
      exact .cons (h.outside hequal.1) (hs.outside hequal.2)

end

/-! ### Membership -/

theorem member_iff_equal :
    (∀ items, member v (.arr items) = member w (.arr items)) ↔ equal v w = true := by
  constructor
  · intro h
    have hself : (v.equal v || false) = (v.equal w || false) := Except.ok.inj (h [v])
    rw [equal_refl, Bool.or_false, Bool.or_false] at hself
    exact hself.symm
  · intro h items
    exact congrArg (fun p => Except.ok (items.any p)) (funext (equal_congr_right h))

theorem member_insert_iff_equal :
    (∀ before after item, member item (.arr (before ++ v :: after)) =
      member item (.arr (before ++ w :: after))) ↔ equal v w = true := by
  constructor
  · intro h
    have hself : (v.equal v || false) = (w.equal v || false) := Except.ok.inj (h [] [] v)
    rw [equal_refl, Bool.or_false, Bool.or_false] at hself
    exact equal_symm hself.symm
  · intro h before after item
    refine congrArg Except.ok ?_
    rw [List.any_append, List.any_append, List.any_cons, List.any_cons, equal_congr_left h]

/-- **Numbers may be written the other way everywhere but in objects.**  Replace integers of at most
`2 ^ 53` in a value by floating-point numbers of the same value.  The value is equal to what becomes
of it if and only if nothing was replaced inside an object, and then only may it stand for it as an
item that a list is asked for, or as an item of the list. -/
theorem recast_equal (h : Recast True v w) :
    (equal v w = true ↔ Recast False v w) ∧
    ((∀ items, member v (.arr items) = member w (.arr items)) ↔ Recast False v w) ∧
    ((∀ before after item, member item (.arr (before ++ v :: after)) =
      member item (.arr (before ++ w :: after))) ↔ Recast False v w) := by
  have hequal : equal v w = true ↔ Recast False v w := ⟨h.outside, Recast.equal⟩
  exact ⟨hequal, member_iff_equal.trans hequal, member_insert_iff_equal.trans hequal⟩

theorem Recast.ofInt {i : ℤ} (hi : i.natAbs ≤ 2 ^ 53) :
    Recast inside (.num (.int i)) (.num (.float (Double.ofInt i))) :=
  .number hi (by rw [Double.ofInt_units, Double.rounded_eq_self hi])

namespace Sample

/-- A list that has a list with the number. -/
def listed (n : Number) : Json := .arr [.str "amounts", .arr [.num n, .null]]

/-- An object that has the number in a field. -/
def filed (n : Number) : Json := .obj [("amount", .num n)]

end Sample

/-- A number in a list in a list is written the other way. -/
theorem recast_equal_sample :
    Recast True (Sample.listed (.int 3)) (Sample.listed (.float (Double.ofInt 3))) ∧
    equal (Sample.listed (.int 3)) (Sample.listed (.float (Double.ofInt 3))) = true ∧
    ∀ items, member (Sample.listed (.int 3)) (.arr items) =
      member (Sample.listed (.float (Double.ofInt 3))) (.arr items) := by
  have hrecast (inside : Prop) :
      Recast inside (Sample.listed (.int 3)) (Sample.listed (.float (Double.ofInt 3))) :=
    .list (.cons (.keep _) (.cons (.list (.cons (.ofInt (by decide)) (.cons (.keep _) .nil))) .nil))
  obtain ⟨hequal, hmember, -⟩ := recast_equal (hrecast True)
  exact ⟨hrecast True, hequal.mpr (hrecast False), hmember.mpr (hrecast False)⟩

/-- **A number in a field may not be written the other way.**  The object with the number in the
field is not equal to what becomes of it, and the list that has the one does not have the other. -/
theorem recast_field :
    ¬(∀ v w, Recast True v w → equal v w = true) ∧
    Recast True (Sample.filed (.int 1)) (Sample.filed (.float (Double.ofInt 1))) ∧
    equal (Sample.filed (.int 1)) (Sample.filed (.float (Double.ofInt 1))) = false ∧
    member (Sample.filed (.int 1)) (.arr [Sample.filed (.int 1)]) = .ok true ∧
    member (Sample.filed (.float (Double.ofInt 1))) (.arr [Sample.filed (.int 1)]) = .ok false := by
  have hrecast : Recast True (Sample.filed (.int 1)) (Sample.filed (.float (Double.ofInt 1))) :=
    .object trivial (.cons (.ofInt (by decide)) .nil)
  have hequal : equal (Sample.filed (.int 1)) (Sample.filed (.float (Double.ofInt 1))) = false :=
    rfl
  refine ⟨fun h => ?_, hrecast, hequal, ?_, ?_⟩
  · rw [h _ _ hrecast] at hequal
    cases hequal
  · exact congrArg (fun b => Except.ok (b || false)) (equal_refl _)
  · exact congrArg (fun b => Except.ok (b || false)) hequal

end Docket.Json
