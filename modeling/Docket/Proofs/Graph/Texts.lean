import Docket.Proofs.Expression.Compiled
import Docket.Proofs.Graph.Loaded

/-! # The texts that loading has checked

An item is evaluated in two ways: `Item.expressions` lists the texts that are read as expressions,
and `Item.texts` those that are rendered and are templates if they have marks of one.  The check of
an item admits all of them (`Item.admits_of_check`), so a graph admits the texts of its items, those
of statuses and of global actions alike. -/

namespace Docket

open Expression (Rules)

namespace Item

variable {rules : Rules} {item : Item}

/-- The texts of an item that are read as expressions. -/
def expressions (item : Item) : List String :=
  item.condition.toList ++
    match item.action with
    | .dispatch dispatch => dispatch.source.toList
    | _ => []

/-- The texts of an item that are rendered. -/
def texts (item : Item) : List String :=
  match item.action with
  | .dispatch dispatch => dispatch.spec.toList ++ dispatch.rules.map DispatchRule.role
  | .message message => [message.template]
  | .notify notification => [notification.recipients, notification.body]
  | .changeRole _ change => [change.spec]
  | .jump _ | .choice _ | .edit _ => []

theorem condition_mem_expressions {source : String} (h : item.condition = some source) :
    source ∈ item.expressions :=
  List.mem_append_left _ (Option.mem_toList.mpr h)

theorem source_mem_expressions {dispatch : Dispatch} {source : String}
    (ha : item.action = .dispatch dispatch) (h : dispatch.source = some source) :
    source ∈ item.expressions := by
  unfold expressions
  rw [ha]
  exact List.mem_append_right _ (Option.mem_toList.mpr h)

/-! ### Checks -/

theorem checkSome_eq_ok {α : Type} {check : α → Except LoadError Unit} {o : Option α} :
    checkSome check o = .ok () ↔ ∀ a ∈ o.toList, check a = .ok () := by
  cases o with
  | none => simp [checkSome]
  | some a => simp [checkSome]

theorem checkExpression_eq_ok {text : ItemText} {source : String} :
    item.checkExpression rules text source = .ok () ↔ rules.Admits source := by
  unfold checkExpression Rules.Admits
  cases rules.compile source with
  | ok e => simp
  | error e => simp

theorem checkTemplate_eq_ok {text : ItemText} {source : String} :
    item.checkTemplate rules text source = .ok () ↔ rules.AdmitsText source := by
  unfold checkTemplate Rules.AdmitsText
  split
  · next ht =>
    cases rules.compileTemplate source with
    | ok parts => simp
    | error e => simp [ht]
  · next ht => simp [ht]

/-- **The check of an item admits every text that is evaluated of it.** -/
theorem admits_of_check {statuses : List String} (h : item.check rules statuses = .ok ()) :
    (∀ source ∈ item.expressions, rules.Admits source) ∧
      ∀ text ∈ item.texts, rules.AdmitsText text := by
  obtain ⟨⟨⟩, hcondition, haction⟩ := bind_eq_ok.mp h
  rw [checkSome_eq_ok] at hcondition
  have hcond : ∀ source ∈ item.condition.toList, rules.Admits source :=
    fun source hs => checkExpression_eq_ok.mp (hcondition source hs)
  unfold checkAction at haction
  unfold expressions texts
  rw [List.forall_mem_append]
  cases ha : item.action with
  | jump _ => exact ⟨⟨hcond, by simp⟩, by simp⟩
  | choice _ => exact ⟨⟨hcond, by simp⟩, by simp⟩
  | edit _ => exact ⟨⟨hcond, by simp⟩, by simp⟩
  | dispatch dispatch =>
      simp only [ha] at haction
      split at haction
      · cases haction
      · obtain ⟨⟨⟩, hsource, haction⟩ := bind_eq_ok.mp haction
        obtain ⟨⟨⟩, hspec, hrules⟩ := bind_eq_ok.mp haction
        rw [checkSome_eq_ok] at hsource hspec
        rw [checkEach_eq_ok] at hrules
        simp only [List.forall_mem_append, List.forall_mem_map]
        exact ⟨⟨hcond, fun source hs => checkExpression_eq_ok.mp (hsource source hs)⟩,
          fun spec hs => checkTemplate_eq_ok.mp (hspec spec hs),
          fun rule hr => checkTemplate_eq_ok.mp (hrules rule hr)⟩
  | message message =>
      simp only [ha] at haction
      exact ⟨⟨hcond, by simp⟩, by simpa using checkTemplate_eq_ok.mp haction⟩
  | notify notification =>
      simp only [ha] at haction
      obtain ⟨⟨⟩, hrecipients, hbody⟩ := bind_eq_ok.mp haction
      refine ⟨⟨hcond, by simp⟩, ?_⟩
      simpa using ⟨checkTemplate_eq_ok.mp hrecipients, checkTemplate_eq_ok.mp hbody⟩
  | changeRole operation change =>
      simp only [ha] at haction
      exact ⟨⟨hcond, by simp⟩, by simpa using checkTemplate_eq_ok.mp haction⟩

end Item

namespace Graph

variable {g : Graph} {item : Item}

theorem admits_expression (hi : item ∈ g.workflow.items) {source : String}
    (hs : source ∈ item.expressions) : g.rules.Admits source :=
  (Item.admits_of_check (g.admitted.item_checked item hi)).1 source hs

theorem admits_text (hi : item ∈ g.workflow.items) {text : String} (ht : text ∈ item.texts) :
    g.rules.AdmitsText text :=
  (Item.admits_of_check (g.admitted.item_checked item hi)).2 text ht

end Graph
end Docket
