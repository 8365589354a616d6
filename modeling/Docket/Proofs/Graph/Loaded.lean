import Docket.Graph
import Docket.Proofs.Expression.Mention
import Mathlib.Data.List.Nodup

/-! # What a loaded graph guarantees

A `Graph` carries the proof that its workflow passed `Workflow.check`.  This module opens that proof
once.  `Workflow.check_eq_ok_iff` turns the checks into the five facts of `Workflow.Admitted`, and
`Graph.admitted` hands them to every graph.  From them:

* the index of a graph finds exactly the declared statuses (`Graph.exists_status?_iff`), and the
  status it finds is one of the workflow (`Graph.mem_of_status?`);
* the configured target of an item is a declared status or the jump back (`Graph.target_declared`);
* an identifier names one item of the workflow (`Graph.eq_of_item_id`), and one global action
  (`Graph.eq_of_action_id`). -/

namespace Docket

open Expression (Rules)

/-! ### Collections made of lists -/

namespace Keyed

variable {α κ : Type} [LT κ] [LE κ] [Std.IsLinearOrder κ] [Std.LawfulOrderLT κ] [DecidableLT κ]
  [DecidableEq κ] {key : α → κ}

theorem get?_foldl_insert (l : List α) (s : Keyed key) (k : κ) :
    (l.foldl (fun s a => s.insert a) s).get? k =
      (l.reverse.find? fun a => key a = k).or (s.get? k) := by
  induction l generalizing s with
  | nil => simp
  | cons a rest ih =>
      rw [List.foldl_cons, ih, get?_insert, List.reverse_cons, List.find?_append, Option.or_assoc]
      congr 1
      by_cases h : key a = k <;> simp [h]

theorem get?_ofList (l : List α) (k : κ) :
    (ofList l : Keyed key).get? k = l.reverse.find? fun a => key a = k := by
  unfold ofList
  rw [get?_foldl_insert, get?_empty, Option.or_none]

end Keyed

/-! ### Checks -/

theorem firstRepeated_go_eq_none {seen names : List String} :
    firstRepeated.go seen names = none ↔ names.Nodup ∧ ∀ n ∈ names, n ∉ seen := by
  induction names generalizing seen with
  | nil => simp [firstRepeated.go]
  | cons n rest ih =>
      unfold firstRepeated.go
      by_cases h : n ∈ seen
      · simp [h]
      · rw [if_neg h, ih, List.nodup_cons]
        simp only [List.mem_cons, forall_eq_or_imp, not_or]
        constructor
        · rintro ⟨hd, hs⟩
          exact ⟨⟨fun hn => (hs n hn).1 rfl, hd⟩, h, fun m hm => (hs m hm).2⟩
        · rintro ⟨⟨hn, hd⟩, _, hs⟩
          exact ⟨hd, fun m hm => ⟨fun e => hn (e ▸ hm), hs m hm⟩⟩

theorem firstRepeated_eq_none {names : List String} : firstRepeated names = none ↔ names.Nodup := by
  unfold firstRepeated
  rw [firstRepeated_go_eq_none]
  simp

theorem Item.checkEach_eq_ok {α : Type} {check : α → Except LoadError Unit} {l : List α} :
    checkEach check l = .ok () ↔ ∀ a ∈ l, check a = .ok () := by
  induction l with
  | nil => simp [checkEach]
  | cons a rest ih =>
      unfold checkEach
      rw [bind_eq_ok, List.forall_mem_cons, ← ih]
      exact ⟨fun ⟨_, ha, hr⟩ => ⟨ha, hr⟩, fun ⟨ha, hr⟩ => ⟨(), ha, hr⟩⟩

theorem Item.checkTarget_eq_ok {item : Item} {statuses : List String} {target : String} :
    item.checkTarget statuses target = .ok () ↔ target = previous ∨ target ∈ statuses := by
  unfold checkTarget
  split <;> simp_all

namespace Workflow

theorem checkDistinct_eq_ok {error : String → LoadError} {names : List String} {u : Unit} :
    checkDistinct error names = .ok u ↔ names.Nodup := by
  rw [← firstRepeated_eq_none]
  unfold checkDistinct
  cases firstRepeated names <;> simp

/-- What a workflow has passed once its checks succeed. -/
structure Admitted (rules : Rules) (w : Workflow) : Prop where
  statuses_nodup : (w.statuses.map Status.id).Nodup
  items_nodup : (w.items.map Item.id).Nodup
  actions_nodup : (w.globalActions.map GlobalAction.id).Nodup
  initial_mem : w.initial ∈ w.statuses.map Status.id
  item_checked : ∀ item ∈ w.items, item.check rules (w.statuses.map Status.id) = .ok ()

/-- **The checks of a workflow succeed exactly on the admitted ones.** -/
theorem check_eq_ok_iff {rules : Rules} {w : Workflow} :
    w.check rules = .ok () ↔ w.Admitted rules := by
  unfold check
  simp only [bind_eq_ok, checkDistinct_eq_ok]
  constructor
  · rintro ⟨_, hs, _, hi, _, ha, h⟩
    split at h
    · cases h
    · next hinit => exact ⟨hs, hi, ha, not_not.mp hinit, Item.checkEach_eq_ok.mp h⟩
  · rintro ⟨hs, hi, ha, hinit, hitems⟩
    refine ⟨(), hs, (), hi, (), ha, ?_⟩
    rw [if_neg (not_not.mpr hinit)]
    exact Item.checkEach_eq_ok.mpr hitems

theorem mem_items_of_status {w : Workflow} {status : Status} {item : Item}
    (hs : status ∈ w.statuses) (hi : item ∈ status.items) : item ∈ w.items :=
  List.mem_append_left _ (List.mem_flatMap.mpr ⟨status, hs, hi⟩)

theorem mem_items_of_globalAction {w : Workflow} {action : GlobalAction} {item : Item}
    (ha : action ∈ w.globalActions) (hi : item ∈ action.items) : item ∈ w.items :=
  List.mem_append_right _ (List.mem_flatMap.mpr ⟨action, ha, hi⟩)

end Workflow

/-- The target of an item that can move a record, and whether the status left is marked. -/
def Item.route? (item : Item) : Option (String × Bool) :=
  match item.action with
  | .jump jump => some (jump.target, jump.mark)
  | .choice choice => some (choice.target, choice.mark)
  | .edit edit => edit.target.map fun target => (target, false)
  | _ => none

theorem Item.route?_jump {item : Item} {jump : Jump} (h : item.action = .jump jump) :
    item.route? = some (jump.target, jump.mark) := by
  simp [route?, h]

theorem Item.route?_choice {item : Item} {choice : Choice} (h : item.action = .choice choice) :
    item.route? = some (choice.target, choice.mark) := by
  simp [route?, h]

theorem Item.route?_edit {item : Item} {edit : Edit} {target : String} (h : item.action = .edit edit)
    (ht : edit.target = some target) : item.route? = some (target, false) := by
  simp [route?, h, ht]

theorem Item.target_of_check {rules : Rules} {item : Item} {statuses : List String} {target : String}
    {mark : Bool} (hc : item.check rules statuses = .ok ()) (hr : item.route? = some (target, mark)) :
    target = previous ∨ target ∈ statuses := by
  obtain ⟨_, _, ha⟩ := bind_eq_ok.mp hc
  unfold checkAction at ha
  unfold route? at hr
  cases h : item.action with
  | jump jump =>
      simp only [h, Option.some.injEq, Prod.mk.injEq] at ha hr
      exact hr.1 ▸ checkTarget_eq_ok.mp ha
  | choice choice =>
      simp only [h, Option.some.injEq, Prod.mk.injEq] at ha hr
      exact hr.1 ▸ checkTarget_eq_ok.mp ha
  | edit edit =>
      simp only [h, Option.map_eq_some_iff, Prod.mk.injEq] at ha hr
      obtain ⟨t, ht, rfl, _⟩ := hr
      rw [ht] at ha
      exact checkTarget_eq_ok.mp ha
  | dispatch _ => simp [h] at hr
  | message _ => simp [h] at hr
  | notify _ => simp [h] at hr
  | changeRole _ _ => simp [h] at hr

/-! ### Graphs -/

namespace Graph

/-- **The graph of a workflow is the workflow with the proof that it passes.** -/
theorem ofWorkflow_eq_ok_iff {rules : Rules} {w : Workflow} {g : Graph} :
    ofWorkflow rules w = .ok g ↔ g.workflow = w ∧ g.rules = rules := by
  unfold ofWorkflow
  constructor
  · intro h
    split at h
    · cases h
      exact ⟨rfl, rfl⟩
    · cases h
  · rintro ⟨rfl, rfl⟩
    split
    · rfl
    · next e he => cases g.checked.symm.trans he

variable (g : Graph)

/-- `id` is the identifier of a declared status. -/
def Declares (id : String) : Prop := id ∈ g.workflow.statuses.map Status.id

theorem admitted : g.workflow.Admitted g.rules := Workflow.check_eq_ok_iff.mp g.checked

variable {g}

theorem mem_of_status? {id : String} {status : Status} (h : g.status? id = some status) :
    status ∈ g.workflow.statuses ∧ status.id = id := by
  unfold status? index at h
  refine ⟨?_, Keyed.key_of_get? h⟩
  rw [Keyed.get?_ofList] at h
  exact List.mem_reverse.mp (List.mem_of_find?_eq_some h)

theorem exists_status?_iff {id : String} :
    (∃ status, g.status? id = some status) ↔ g.Declares id := by
  constructor
  · rintro ⟨status, h⟩
    obtain ⟨hm, rfl⟩ := mem_of_status? h
    exact List.mem_map_of_mem hm
  · intro h
    obtain ⟨status, hm, rfl⟩ := List.mem_map.mp h
    rw [← Option.isSome_iff_exists]
    unfold status? index
    rw [Keyed.get?_ofList, List.find?_isSome]
    exact ⟨status, List.mem_reverse.mpr hm, by simp⟩

theorem status?_eq_none_iff {id : String} : g.status? id = none ↔ ¬ g.Declares id := by
  rw [← exists_status?_iff, ← Option.isSome_iff_exists, Option.not_isSome_iff_eq_none]

theorem declares_initial : g.Declares g.workflow.initial := g.admitted.initial_mem

theorem item_mem_of_status? {id : String} {status : Status} {item : Item}
    (h : g.status? id = some status) (hi : item ∈ status.items) : item ∈ g.workflow.items :=
  Workflow.mem_items_of_status (mem_of_status? h).1 hi

theorem target_declared {item : Item} {target : String} {mark : Bool} (hi : item ∈ g.workflow.items)
    (hr : item.route? = some (target, mark)) : target = previous ∨ g.Declares target :=
  Item.target_of_check (g.admitted.item_checked item hi) hr

theorem eq_of_item_id {item item' : Item} (hi : item ∈ g.workflow.items)
    (hi' : item' ∈ g.workflow.items) (h : item.id = item'.id) : item = item' :=
  List.inj_on_of_nodup_map g.admitted.items_nodup hi hi' h

theorem eq_of_action_id {a b : GlobalAction} (ha : a ∈ g.workflow.globalActions)
    (hb : b ∈ g.workflow.globalActions) (h : a.id = b.id) : a = b :=
  List.inj_on_of_nodup_map g.admitted.actions_nodup ha hb h

end Graph
end Docket
