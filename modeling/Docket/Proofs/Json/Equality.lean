import Docket.Expression.Compare

/-! # Equality of values

Equality and identity of values are equivalences, and values that are identical are equal.  Both are
shown to be reflexive and Euclidean, by induction on the values: two values that are equal to a
third are equal to each other, from which symmetry and transitivity follow.

Equality has a rule of its own for numbers and for lists (`normalises`).  Everywhere else it is
identity (`equal_eq_same`), so an object is equal to what it is identical to and to nothing else. -/

namespace Docket

namespace Number

variable {m n : Number}

theorem equal_iff : m.equal n = true ↔ m.toDouble.units = n.toDouble.units := beq_iff_eq

theorem same_refl (n : Number) : n.same n = true := by
  cases n with
  | int i => exact beq_self_eq_true i
  | float x => exact beq_self_eq_true x.units

theorem same_euclid : ∀ {m n k : Number}, m.same n = true → m.same k = true → n.same k = true
  | .int _, .int _, .int _, hn, hk | .float _, .float _, .float _, hn, hk =>
      beq_iff_eq.mpr ((beq_iff_eq.mp hn).symm.trans (beq_iff_eq.mp hk))
  | .int _, .float _, _, hn, _ | .float _, .int _, _, hn, _ => by cases hn
  | .int _, .int _, .float _, _, hk | .float _, .float _, .int _, _, hk => by cases hk

theorem equal_of_same : ∀ {m n : Number}, m.same n = true → m.equal n = true
  | .int i, .int _, h => by
      cases beq_iff_eq.mp h
      exact equal_iff.mpr rfl
  | .float _, .float _, h => h
  | .int _, .float _, h | .float _, .int _, h => by cases h

end Number

namespace Json

variable {u v w : Json}

attribute [local simp] same sameItems sameFields equal equalItems

/-! ### Identity -/

mutual

theorem same_refl : ∀ v : Json, same v v = true
  | .null => rfl
  | .bool b => beq_self_eq_true b
  | .num n => n.same_refl
  | .str s => beq_self_eq_true s
  | .arr xs => sameItems_refl xs
  | .obj xs => sameFields_refl xs

theorem sameItems_refl : ∀ xs : List Json, sameItems xs xs = true
  | [] => rfl
  | x :: xs => by rw [sameItems, same_refl x, sameItems_refl xs]; rfl

theorem sameFields_refl : ∀ xs : List (String × Json), sameFields xs xs = true
  | [] => rfl
  | (k, x) :: xs => by rw [sameFields, same_refl x, sameFields_refl xs, beq_self_eq_true]; rfl

end

/-! What a value is identical to has its constructor, and identical parts. -/

theorem same_null_iff : same .null v = true ↔ .null = v := by
  cases v <;> simp

theorem same_bool_iff {b : Bool} : same (.bool b) v = true ↔ .bool b = v := by
  cases v <;> simp

theorem same_str_iff {s : String} : same (.str s) v = true ↔ .str s = v := by
  cases v <;> simp

theorem same_num_iff {m : Number} :
    same (.num m) v = true ↔ ∃ n, v = .num n ∧ m.same n = true := by
  cases v <;> simp

theorem same_arr_iff {xs : List Json} :
    same (.arr xs) v = true ↔ ∃ ys, v = .arr ys ∧ sameItems xs ys = true := by
  cases v <;> simp

theorem same_obj_iff {fs : Fields} :
    same (.obj fs) v = true ↔ ∃ gs, v = .obj gs ∧ sameFields fs gs = true := by
  cases v <;> simp

theorem sameItems_nil_iff {ys : List Json} : sameItems [] ys = true ↔ ys = [] := by
  cases ys <;> simp

theorem sameItems_cons_iff {x : Json} {xs ys : List Json} : sameItems (x :: xs) ys = true ↔
    ∃ y zs, ys = y :: zs ∧ same x y = true ∧ sameItems xs zs = true := by
  cases ys <;> simp [and_assoc]

theorem sameFields_nil_iff {gs : Fields} : sameFields [] gs = true ↔ gs = [] := by
  cases gs <;> simp

theorem sameFields_cons_iff {name : String} {x : Json} {fs gs : Fields} :
    sameFields ((name, x) :: fs) gs = true ↔
      ∃ y hs, gs = (name, y) :: hs ∧ same x y = true ∧ sameFields fs hs = true := by
  cases gs with
  | nil => simp [sameFields]
  | cons g gs =>
      obtain ⟨name', y⟩ := g
      simp only [sameFields, Bool.and_eq_true, beq_iff_eq]
      constructor
      · rintro ⟨rfl, hsame, hfields⟩
        exact ⟨y, gs, rfl, hsame, hfields⟩
      · rintro ⟨y, hs, heq, hsame, hfields⟩
        cases heq
        exact ⟨rfl, hsame, hfields⟩

mutual

theorem same_euclid : ∀ {u v w : Json}, same u v = true → same u w = true → same v w = true
  | .null, _, _, hv, hw => by
      obtain rfl := same_null_iff.mp hv
      exact hw
  | .bool _, _, _, hv, hw => by
      obtain rfl := same_bool_iff.mp hv
      exact hw
  | .str _, _, _, hv, hw => by
      obtain rfl := same_str_iff.mp hv
      exact hw
  | .num _, _, _, hv, hw => by
      obtain ⟨n, rfl, hn⟩ := same_num_iff.mp hv
      obtain ⟨k, rfl, hk⟩ := same_num_iff.mp hw
      exact Number.same_euclid hn hk
  | .arr _, _, _, hv, hw => by
      obtain ⟨ys, rfl, hys⟩ := same_arr_iff.mp hv
      obtain ⟨zs, rfl, hzs⟩ := same_arr_iff.mp hw
      exact sameItems_euclid hys hzs
  | .obj _, _, _, hv, hw => by
      obtain ⟨gs, rfl, hgs⟩ := same_obj_iff.mp hv
      obtain ⟨hs, rfl, hhs⟩ := same_obj_iff.mp hw
      exact sameFields_euclid hgs hhs

theorem sameItems_euclid : ∀ {xs ys zs : List Json},
    sameItems xs ys = true → sameItems xs zs = true → sameItems ys zs = true
  | [], _, _, hys, hzs => by
      obtain rfl := sameItems_nil_iff.mp hys
      exact hzs
  | _ :: _, _, _, hys, hzs => by
      obtain ⟨y, ys, rfl, hy, hys⟩ := sameItems_cons_iff.mp hys
      obtain ⟨z, zs, rfl, hz, hzs⟩ := sameItems_cons_iff.mp hzs
      exact sameItems_cons_iff.mpr ⟨z, zs, rfl, same_euclid hy hz, sameItems_euclid hys hzs⟩

theorem sameFields_euclid : ∀ {fs gs hs : Fields},
    sameFields fs gs = true → sameFields fs hs = true → sameFields gs hs = true
  | [], _, _, hgs, hhs => by
      obtain rfl := sameFields_nil_iff.mp hgs
      exact hhs
  | _ :: _, _, _, hgs, hhs => by
      obtain ⟨y, gs, rfl, hy, hgs⟩ := sameFields_cons_iff.mp hgs
      obtain ⟨z, hs, rfl, hz, hhs⟩ := sameFields_cons_iff.mp hhs
      exact sameFields_cons_iff.mpr ⟨z, hs, rfl, same_euclid hy hz, sameFields_euclid hgs hhs⟩

end

/-! ### Equality -/

/-- Whether equality has a rule of its own for a value. -/
def normalises : Json → Bool
  | .num _ | .arr _ => true
  | _ => false

theorem equal_eq_same (hu : u.normalises = false) (v : Json) : equal u v = same u v := by
  cases u with
  | num | arr => cases hu
  | _ => rfl

theorem equal_num_iff {m : Number} :
    equal (.num m) v = true ↔ ∃ n, v = .num n ∧ m.equal n = true := by
  cases v <;> simp

theorem equal_arr_iff {xs : List Json} :
    equal (.arr xs) v = true ↔ ∃ ys, v = .arr ys ∧ equalItems xs ys = true := by
  cases v <;> simp

theorem equalItems_nil_iff {ys : List Json} : equalItems [] ys = true ↔ ys = [] := by
  cases ys <;> simp

theorem equalItems_cons_iff {x : Json} {xs ys : List Json} : equalItems (x :: xs) ys = true ↔
    ∃ y zs, ys = y :: zs ∧ equal x y = true ∧ equalItems xs zs = true := by
  cases ys <;> simp [and_assoc]

mutual

theorem equal_refl : ∀ v : Json, equal v v = true
  | .num _ => Number.equal_iff.mpr rfl
  | .arr xs => equalItems_refl xs
  | .null | .bool _ | .str _ | .obj _ => (equal_eq_same rfl _).trans (same_refl _)

theorem equalItems_refl : ∀ xs : List Json, equalItems xs xs = true
  | [] => rfl
  | x :: xs => by rw [equalItems, equal_refl x, equalItems_refl xs]; rfl

end

mutual

theorem equal_of_same : ∀ {v w : Json}, same v w = true → equal v w = true
  | .num _, _, h => by
      obtain ⟨n, rfl, hn⟩ := same_num_iff.mp h
      exact Number.equal_of_same hn
  | .arr _, _, h => by
      obtain ⟨ys, rfl, hys⟩ := same_arr_iff.mp h
      exact equalItems_of_same hys
  | .null, _, h | .bool _, _, h | .str _, _, h | .obj _, _, h => (equal_eq_same rfl _).trans h

theorem equalItems_of_same : ∀ {xs ys : List Json},
    sameItems xs ys = true → equalItems xs ys = true
  | [], _, h => by
      rw [sameItems_nil_iff.mp h]
      rfl
  | _ :: _, _, h => by
      obtain ⟨y, ys, rfl, hy, hys⟩ := sameItems_cons_iff.mp h
      exact equalItems_cons_iff.mpr ⟨y, ys, rfl, equal_of_same hy, equalItems_of_same hys⟩

end

/-- Where equality has no rule of its own for a value, two values that are equal to it are equal. -/
theorem equal_euclid_of_not_normalises (hu : u.normalises = false) (hv : equal u v = true)
    (hw : equal u w = true) : equal v w = true := by
  rw [equal_eq_same hu] at hv hw
  exact equal_of_same (same_euclid hv hw)

mutual

theorem equal_euclid : ∀ {u v w : Json}, equal u v = true → equal u w = true → equal v w = true
  | .num m, v, w, hv, hw => by
      obtain ⟨n, rfl, hn⟩ := equal_num_iff.mp hv
      obtain ⟨k, rfl, hk⟩ := equal_num_iff.mp hw
      exact Number.equal_iff.mpr ((Number.equal_iff.mp hn).symm.trans (Number.equal_iff.mp hk))
  | .arr xs, v, w, hv, hw => by
      obtain ⟨ys, rfl, hys⟩ := equal_arr_iff.mp hv
      obtain ⟨zs, rfl, hzs⟩ := equal_arr_iff.mp hw
      exact equalItems_euclid hys hzs
  | .null, _, _, hv, hw | .bool _, _, _, hv, hw | .str _, _, _, hv, hw | .obj _, _, _, hv, hw =>
      equal_euclid_of_not_normalises rfl hv hw

theorem equalItems_euclid : ∀ {xs ys zs : List Json},
    equalItems xs ys = true → equalItems xs zs = true → equalItems ys zs = true
  | [], _, _, hys, hzs => by
      obtain rfl := equalItems_nil_iff.mp hys
      exact hzs
  | _ :: _, _, _, hys, hzs => by
      obtain ⟨y, ys, rfl, hy, hys⟩ := equalItems_cons_iff.mp hys
      obtain ⟨z, zs, rfl, hz, hzs⟩ := equalItems_cons_iff.mp hzs
      exact equalItems_cons_iff.mpr ⟨z, zs, rfl, equal_euclid hy hz, equalItems_euclid hys hzs⟩

end

theorem equal_symm (h : equal v w = true) : equal w v = true := equal_euclid h (equal_refl v)

theorem equal_trans (huv : equal u v = true) (hvw : equal v w = true) : equal u w = true :=
  equal_euclid (equal_symm huv) hvw

theorem equal_congr_left (h : equal v w = true) (x : Json) : equal v x = equal w x :=
  Bool.eq_iff_iff.mpr ⟨equal_euclid h, equal_trans h⟩

theorem equal_congr_right (h : equal v w = true) (x : Json) : equal x v = equal x w :=
  Bool.eq_iff_iff.mpr ⟨fun hx => equal_trans hx h, fun hx => equal_trans hx (equal_symm h)⟩

end Json
end Docket
