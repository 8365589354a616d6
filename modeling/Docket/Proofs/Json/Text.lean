import Docket.Expression.Compare

/-! # Which values have no text

In a template null has no text, and a text is its own.  Everything else leaves at least a letter, a
digit or a mark behind: `Json.text_eq_empty_iff`. -/

namespace Docket

namespace Double

theorem Numeral.positional_ne_empty (n : Numeral) : n.positional true ≠ "" := by
  unfold positional
  simp only
  split
  · simp [String.append_eq_empty_iff]
  · split
    · simp [String.append_eq_empty_iff]
    · simp [String.append_eq_empty_iff]

theorem Numeral.scientific_ne_empty (n : Numeral) : n.scientific ≠ "" := by
  unfold scientific
  simp [String.append_eq_empty_iff]

theorem Layout.write_json_ne_empty (x : Double) : Layout.json.write x ≠ "" := by
  unfold Layout.write
  simp only
  split
  · simp [String.append_eq_empty_iff, Layout.json]
  · have hdigits : ∀ (isPositional : Bool) (n : Numeral),
        (if isPositional then n.positional true else n.scientific) ≠ "" := by
      intro isPositional n
      cases isPositional with
      | true => exact n.positional_ne_empty
      | false => exact n.scientific_ne_empty
    exact fun hempty => hdigits _ _ (String.append_eq_empty_iff.mp hempty).2

end Double

theorem Number.write_ne_empty (n : Number) : n.write ≠ "" := by
  cases n with
  | float x => exact Double.Layout.write_json_ne_empty x
  | int i =>
      cases i with
      | ofNat m => exact Nat.repr_ne_empty
      | negSucc m =>
          intro hempty
          have hsign : ("-" : String) = "" := (String.append_eq_empty_iff.mp hempty).1
          exact absurd hsign (by decide)

namespace Json

/-- **Null and the empty text are the only values without a text.** -/
theorem text_eq_empty_iff {j : Json} : j.text = "" ↔ j = .null ∨ j = .str "" := by
  cases j with
  | null => exact ⟨fun _ => Or.inl rfl, fun _ => rfl⟩
  | str s => simp [text]
  | bool b => cases b <;> simp [text]
  | num n => simp [text, write, n.write_ne_empty]
  | arr items => simp [text, write, String.append_eq_empty_iff]
  | obj fields => simp [text, write, String.append_eq_empty_iff]

end Json
end Docket
