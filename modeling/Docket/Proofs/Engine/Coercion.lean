import Docket.Engine.Action
import Docket.Proofs.Engine.Report

/-! # What coercion adds

With coercion a number and a text that spells it are taken for one, and nothing else changes
(`ruleMatches_true_iff`).  So coercion only adds matches.  But the first rule that matches wins, and
an added match may stand before the rule that would have won without it.

`firstMatch` is the place of the rule that wins.  Coercion never moves it down the list, and moves
it up, or finds a rule where there was none, only by a number and its spelling.  A dispatch does
what it would do with this rule alone: `coercion_adds_matches`. -/

namespace Docket

open Expression (Variables)

variable {value literal : Json} {rules : List DispatchRule} {i j : Nat}

/-! ### One rule -/

/-- One of the values is a number, and the other the text that it has. -/
inductive Json.Spells : Json → Json → Prop
  | number (n : Number) (s : String) :
      (Json.num n).text = (Json.str s).text → Spells (.num n) (.str s)
  | text (s : String) (n : Number) :
      (Json.str s).text = (Json.num n).text → Spells (.str s) (.num n)

/-- The values that a rule is compared with: the items of a list, or the value itself. -/
def Json.candidates : Json → List Json
  | .arr items => items
  | v => [v]

/-- The literal of a rule and the value, or an item of it, are a number and its spelling. -/
def Coerces (value literal : Json) : Prop := ∃ v ∈ value.candidates, v.Spells literal

theorem ruleMatches_eq_any (coercion : Bool) (value literal : Json) :
    ruleMatches coercion value literal =
      value.candidates.any fun v => scalarMatches coercion v literal := by
  cases value with
  | arr items => rfl
  | _ => exact (Bool.or_false _).symm

theorem spells_iff {v : Json} :
    (isNumberAndText v literal && v.text = literal.text) = true ↔ v.Spells literal := by
  rw [Bool.and_eq_true, decide_eq_true_iff]
  constructor
  · rintro ⟨hkinds, htext⟩
    cases v <;> cases literal <;>
      first | exact .number _ _ htext | exact .text _ _ htext | cases hkinds
  · rintro (⟨n, s, htext⟩ | ⟨s, n, htext⟩)
    · exact ⟨rfl, htext⟩
    · exact ⟨rfl, htext⟩

theorem scalarMatches_false (v literal : Json) : scalarMatches false v literal = v.equal literal :=
  Bool.or_false _

theorem scalarMatches_true_iff {v : Json} :
    scalarMatches true v literal = true ↔
      scalarMatches false v literal = true ∨ v.Spells literal := by
  rw [scalarMatches_false, ← spells_iff, ← Bool.or_eq_true]
  rfl

/-- **Coercion adds the matches of numbers with their spellings, and no others.** -/
theorem ruleMatches_true_iff :
    ruleMatches true value literal = true ↔
      ruleMatches false value literal = true ∨ Coerces value literal := by
  simp only [ruleMatches_eq_any, List.any_eq_true, scalarMatches_true_iff, Coerces, and_or_left,
    exists_or]

/-! ### The rule that wins -/

/-- The place of the first rule that matches. -/
def firstMatch (coercion : Bool) (value : Json) (rules : List DispatchRule) : Option Nat :=
  rules.findIdx? fun r => ruleMatches coercion value r.value

theorem firstMatch_le (h : firstMatch false value rules = some i) :
    ∃ j ≤ i, firstMatch true value rules = some j := by
  obtain ⟨hi, hmatch, -⟩ := List.findIdx?_eq_some_iff_getElem.mp h
  have hcoerced : ruleMatches true value rules[i].value = true :=
    ruleMatches_true_iff.mpr (Or.inl hmatch)
  have hsome : (firstMatch true value rules).isSome = true := by
    rw [firstMatch, List.findIdx?_isSome, List.any_eq_true]
    exact ⟨rules[i], List.getElem_mem hi, hcoerced⟩
  obtain ⟨j, hj⟩ := Option.isSome_iff_exists.mp hsome
  obtain ⟨_, _, hbefore⟩ := List.findIdx?_eq_some_iff_getElem.mp hj
  refine ⟨j, Nat.le_of_not_lt fun hlt => ?_, hj⟩
  exact hbefore i hlt hcoerced

/-- If coercion moves the first match, or finds one where there was none, it is by a number and its
spelling. -/
theorem coerces_of_firstMatch (h : firstMatch true value rules = some j)
    (hne : firstMatch false value rules ≠ some j) :
    ∃ rule, rules[j]? = some rule ∧ Coerces value rule.value := by
  obtain ⟨hj, hmatch, hbefore⟩ := List.findIdx?_eq_some_iff_getElem.mp h
  refine ⟨rules[j], List.getElem?_eq_getElem hj, ?_⟩
  refine (ruleMatches_true_iff.mp hmatch).resolve_left fun huncoerced => hne ?_
  -- no rule before it matches with coercion, so none does without
  refine List.findIdx?_eq_some_iff_getElem.mpr ⟨hj, huncoerced, fun k hk hmatches => ?_⟩
  exact hbefore k hk (ruleMatches_true_iff.mpr (Or.inl hmatches))

/-! ### What the winning rule decides -/

section Search

variable {α : Type} {p : α → Bool} {xs : List α}

theorem exists_find?_of_findIdx? (h : xs.findIdx? p = some i) :
    ∃ x, xs[i]? = some x ∧ xs.find? p = some x := by
  obtain ⟨hi, -, -⟩ := List.findIdx?_eq_some_iff_getElem.mp h
  refine ⟨xs[i], List.getElem?_eq_getElem hi, ?_⟩
  rw [List.find?_eq_bind_findIdx?_getElem?, h, Option.bind_some, List.getElem?_eq_getElem hi]

theorem find?_take_append (h : xs.findIdx? p = some i) (others : List α) :
    (xs.take (i + 1) ++ others).find? p = xs.find? p := by
  obtain ⟨hi, hp, -⟩ := List.findIdx?_eq_some_iff_getElem.mp h
  have hmem : xs[i] ∈ xs.take (i + 1) :=
    List.mem_take_iff_getElem.mpr ⟨i, by omega, rfl⟩
  have hsome : ((xs.take (i + 1)).find? p).isSome = true :=
    List.find?_isSome.mpr ⟨xs[i], hmem, hp⟩
  obtain ⟨x, hx⟩ := Option.isSome_iff_exists.mp hsome
  calc (xs.take (i + 1) ++ others).find? p = some x := by rw [List.find?_append, hx, Option.some_or]
    _ = (xs.take (i + 1) ++ xs.drop (i + 1)).find? p := by
      rw [List.find?_append, hx, Option.some_or]
    _ = xs.find? p := by rw [List.take_append_drop]

end Search

/-- The item with a dispatch by the given rules for its action. -/
def Item.routing (item : Item) (dispatch : Dispatch) (rules : List DispatchRule) : Item :=
  { item with action := .dispatch { dispatch with rules } }

namespace Scene

variable {s : Scene} {vars : Variables} {item : Item} {dispatch : Dispatch} {source : String}

/-- All that a dispatch does by its rules is decided by the first one that matches. -/
theorem perform_routing_congr {rules' : List DispatchRule} (hsource : dispatch.source = some source)
    (hvalue : s.engine.rules.evaluate vars source = .ok value)
    (hfind : rules'.find? (fun r => ruleMatches s.engine.settings.coercion value r.value) =
      rules.find? fun r => ruleMatches s.engine.settings.coercion value r.value) (p : Pass) :
    s.perform vars (item.routing dispatch rules') p =
      s.perform vars (item.routing dispatch rules) p := by
  simp only [perform, Item.routing, performDispatch, dispatchRoles, hsource, computedRoles, hvalue,
    hfind]
  rfl

end Scene

/-! ### The main result -/

/-- **Coercion only adds matches.**  If a rule wins without coercion, then with it that rule wins or
one before it.  If another rule wins with coercion than without, or one wins only with it, then its
literal and the value, or an item of the value, are a number and its spelling.  A dispatch does to
the record, and records of failures, what it would do with the rule that wins alone, and whatever
rules follow. -/
theorem coercion_adds_matches (value : Json) (rules : List DispatchRule) :
    (∀ i, firstMatch false value rules = some i →
      ∃ j ≤ i, firstMatch true value rules = some j) ∧
    (∀ j, firstMatch true value rules = some j → firstMatch false value rules ≠ some j →
      ∃ rule, rules[j]? = some rule ∧ Coerces value rule.value) ∧
    ∀ (s : Scene) (vars : Variables) (item : Item) (dispatch : Dispatch) (source : String)
      (p : Pass) (i : Nat), dispatch.source = some source →
      s.engine.rules.evaluate vars source = .ok value →
      firstMatch s.engine.settings.coercion value rules = some i →
      (∃ rule, rules[i]? = some rule ∧
        s.perform vars (item.routing dispatch [rule]) p =
          s.perform vars (item.routing dispatch rules) p) ∧
      ∀ others, s.perform vars (item.routing dispatch (rules.take (i + 1) ++ others)) p =
        s.perform vars (item.routing dispatch rules) p := by
  refine ⟨fun i => firstMatch_le, fun j => coerces_of_firstMatch, ?_⟩
  intro s vars item dispatch source p i hsource hvalue hfirst
  constructor
  · obtain ⟨rule, hrule, hfind⟩ := exists_find?_of_findIdx? hfirst
    refine ⟨rule, hrule, Scene.perform_routing_congr hsource hvalue ?_ p⟩
    rw [hfind, List.find?_cons_of_pos (List.find?_some hfind)]
  · intro others
    exact Scene.perform_routing_congr hsource hvalue (find?_take_append hfirst others) p

/-! ### A sample -/

namespace Sample

/-- The first rule has the spelling of a number, the second one the number. -/
def floors : List DispatchRule := [⟨"r-1", .str "42"⟩, ⟨"r-2", .num (.int 42)⟩]

/-- A dispatch by the floor. -/
def byFloor : Dispatch := ⟨"_desk", .set, none, some "floor", floors⟩

def floorItem : Item := item "route" (.dispatch byFloor)

def floorOnly : Variables := fun n => if n = "floor" then some (.num (.int 42)) else none

theorem evaluate_floor :
    desk.engine.rules.evaluate floorOnly "floor" = .ok (.num (.int 42)) := by
  have h : (desk.engine.rules.evaluate floorOnly "floor").toOption = some (.num (.int 42)) := by
    decide +kernel
  cases hvalue : desk.engine.rules.evaluate floorOnly "floor" with
  | error e => rw [hvalue] at h; cases h
  | ok v => rw [hvalue] at h; cases h; rfl

end Sample

/-- Without coercion a number goes to the second rule.  With it the first one wins, by its spelling,
and the second may be any other. -/
theorem coercion_adds_matches_sample :
    firstMatch false (.num (.int 42)) Sample.floors = some 1 ∧
    firstMatch true (.num (.int 42)) Sample.floors = some 0 ∧
    Coerces (.num (.int 42)) (.str "42") ∧
    Sample.byFloor.source = some "floor" ∧
    Sample.desk.perform Sample.floorOnly
        (Sample.floorItem.routing Sample.byFloor [⟨"r-1", .str "42"⟩, ⟨"r-3", .null⟩])
        (.start Sample.routed Sample.office) =
      Sample.desk.perform Sample.floorOnly
        (Sample.floorItem.routing Sample.byFloor Sample.floors)
        (.start Sample.routed Sample.office) := by
  obtain ⟨-, hcoerces, hothers⟩ := coercion_adds_matches (.num (.int 42)) Sample.floors
  have hfalse : firstMatch false (.num (.int 42)) Sample.floors = some 1 := by decide +kernel
  have htrue : firstMatch true (.num (.int 42)) Sample.floors = some 0 := by decide +kernel
  obtain ⟨rule, hrule, hspelled⟩ := hcoerces 0 htrue (by rw [hfalse]; decide)
  cases hrule
  obtain ⟨-, hsame⟩ := hothers Sample.desk Sample.floorOnly Sample.floorItem Sample.byFloor "floor"
    (.start Sample.routed Sample.office) 0 rfl Sample.evaluate_floor htrue
  exact ⟨hfalse, htrue, hspelled, rfl, hsame [⟨"r-3", .null⟩]⟩

end Docket
