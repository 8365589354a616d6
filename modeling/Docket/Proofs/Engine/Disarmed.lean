import Docket.Proofs.Access
import Docket.Proofs.Engine.Operation

/-! # Global actions without their items

What an operation does because of the items of a global action is the difference to the same
operation over a graph where that action has no items.  `Graph.disarm` takes the items away; what is
left is again a workflow that passes the checks.

`Scene.Starts` gives the ways to start a global action: a call from outside by one of its names, or
a command by somebody whom it admits.  `Scene.operate_disarm_of_not_starts` says that any other
operation does exactly the same without the items: nothing of them was performed. -/

namespace Docket

open Expression (Rules Variables)

/-- The global action, without its items if it has this identifier. -/
def GlobalAction.disarm (id : String) (a : GlobalAction) : GlobalAction :=
  if a.id = id then { a with items := [] } else a

/-- The workflow whose global action of this identifier has no items. -/
def Workflow.disarm (w : Workflow) (id : String) : Workflow :=
  { w with globalActions := w.globalActions.map (GlobalAction.disarm id) }

namespace GlobalAction

variable {id : String} {a : GlobalAction}

theorem disarm_id (id : String) (a : GlobalAction) : (a.disarm id).id = a.id := by
  unfold disarm; split <;> rfl

theorem disarm_triggers (id : String) (a : GlobalAction) :
    (a.disarm id).triggers = a.triggers := by
  unfold disarm; split <;> rfl

theorem disarm_of_ne (h : a.id ≠ id) : a.disarm id = a := if_neg h

theorem disarm_items_sublist (id : String) (a : GlobalAction) :
    (a.disarm id).items.Sublist a.items := by
  unfold disarm
  split
  · exact List.nil_sublist _
  · exact List.Sublist.refl _

theorem disarm_answersTo (id name : String) (a : GlobalAction) :
    (a.disarm id).answersTo name = a.answersTo name := by
  unfold answersTo; rw [disarm_triggers]

end GlobalAction

namespace Workflow

variable (w : Workflow) (id : String)

theorem disarm_items_sublist : (w.disarm id).items.Sublist w.items := by
  unfold items disarm
  refine List.Sublist.append_left ?_ _
  dsimp only
  induction w.globalActions with
  | nil => exact List.Sublist.slnil
  | cons a rest ih =>
      rw [List.map_cons, List.flatMap_cons, List.flatMap_cons]
      exact (a.disarm_items_sublist id).append ih

theorem disarm_ids : (w.disarm id).globalActions.map GlobalAction.id =
    w.globalActions.map GlobalAction.id := by
  unfold disarm
  rw [List.map_map]
  exact List.map_congr_left fun a _ => a.disarm_id id

theorem Admitted.disarm {rules : Rules} {w : Workflow} (h : w.Admitted rules) (id : String) :
    (w.disarm id).Admitted rules where
  statuses_nodup := h.statuses_nodup
  items_nodup := h.items_nodup.sublist ((w.disarm_items_sublist id).map _)
  actions_nodup := by rw [disarm_ids]; exact h.actions_nodup
  initial_mem := h.initial_mem
  item_checked item hi := h.item_checked item ((w.disarm_items_sublist id).subset hi)

theorem disarm_globalAction? (other : String) :
    (w.disarm id).globalAction? other = (w.globalAction? other).map (GlobalAction.disarm id) := by
  unfold globalAction? disarm
  rw [List.find?_map]
  congr 2
  funext a
  simp [GlobalAction.disarm_id]

theorem disarm_find?_answersTo (name : String) :
    (w.disarm id).globalActions.find? (fun a => a.answersTo name) =
      (w.globalActions.find? fun a => a.answersTo name).map (GlobalAction.disarm id) := by
  unfold disarm
  rw [List.find?_map]
  congr 2
  funext a
  simp [GlobalAction.disarm_answersTo]

end Workflow

def Graph.disarm (g : Graph) (id : String) : Graph :=
  ⟨g.rules, g.workflow.disarm id, Workflow.check_eq_ok_iff.mpr (g.admitted.disarm id)⟩

namespace Scene

def disarm (s : Scene) (id : String) : Scene := { s with graph := s.graph.disarm id }

section Passes

variable (s : Scene) (id : String) (vars : Variables) (items : List Item) (p : Pass)

/-! ### Passes do not look at global actions -/

theorem noteCondition_disarm : (s.disarm id).noteCondition = s.noteCondition := rfl

theorem holds_disarm : (s.disarm id).holds = s.holds := rfl

theorem perform_disarm : (s.disarm id).perform = s.perform := rfl

theorem move_disarm : (s.disarm id).move = s.move := rfl

theorem bindings_disarm : (s.disarm id).bindings = s.bindings := rfl

theorem status?_disarm : (s.disarm id).graph.status? = s.graph.status? := rfl

theorem visit_disarm : (s.disarm id).visit vars items p = s.visit vars items p := by
  induction items generalizing p with
  | nil => rfl
  | cons item rest ih =>
      unfold visit
      simp only [noteCondition_disarm, holds_disarm, perform_disarm, move_disarm, ih]

theorem drive_disarm (left : ℕ) : (s.disarm id).drive left p = s.drive left p := by
  fun_induction Scene.drive s left p with
  | case1 left p hs => rw [drive, status?_disarm, hs]
  | case2 left p status hs q hv | case3 left p status hs q hv | case4 p status hs q hv =>
      rw [drive, status?_disarm, hs]
      simp only [bindings_disarm, visit_disarm, hv]
  | case5 p status hs q left hv ih =>
      rw [drive, status?_disarm, hs]
      simp only [bindings_disarm, visit_disarm, hv]
      exact ih

theorem goOn_disarm : (s.disarm id).goOn p = s.goOn p := by
  unfold goOn
  rw [drive_disarm]
  rfl

theorem performGlobal_disarm :
    (s.disarm id).performGlobal vars items p = s.performGlobal vars items p := by
  induction items generalizing p with
  | nil => rfl
  | cons item rest ih =>
      unfold performGlobal
      simp only [noteCondition_disarm, holds_disarm, perform_disarm, move_disarm, ih]

theorem firstTriggered_disarm (name : String) :
    (s.disarm id).firstTriggered vars name items p = s.firstTriggered vars name items p := by
  induction items generalizing p with
  | nil => rfl
  | cons item rest ih =>
      unfold firstTriggered
      simp only [noteCondition_disarm, holds_disarm, ih]

theorem runItems_disarm (action : GlobalAction) :
    (s.disarm id).runItems action p = s.runItems action p := by
  unfold runItems
  simp only [bindings_disarm, goOn_disarm, performGlobal_disarm]
  rfl

end Passes

/-! ### Operations -/

/-- The ways to start a global action: a call from outside by one of its names, a command by a user
for whom one of its lists speaks, or a command from outside if it answers to calls at all. -/
inductive Starts (s : Scene) (record : Record) (world : World) (action : GlobalAction) :
    Operation → Prop
  | called {name : String} : .webservice name ∈ action.triggers →
      Starts s record world action (.trigger name)
  | admitted {admitted : List String} {user : String} : .manual admitted ∈ action.triggers →
      s.moment.user = some user →
      admitted = [] ∨ (∃ entry ∈ admitted, world.directory.Vouches record user entry) →
      Starts s record world action (.runGlobal action.id)
  | outside {name : String} : .webservice name ∈ action.triggers → s.moment.origin = .webservice →
      Starts s record world action (.runGlobal action.id)

variable {s : Scene} {record : Record} {world : World} {action : GlobalAction}

theorem starts_of_startedBy
    (h : action.triggers.any (s.startedBy (Pass.start record world)) = true) :
    s.Starts record world action (.runGlobal action.id) := by
  obtain ⟨trigger, hmem, hstarted⟩ := List.any_eq_true.mp h
  unfold startedBy at hstarted
  cases trigger with
  | manual admitted =>
      obtain ⟨huser, hadmits⟩ := Bool.and_eq_true_iff.mp hstarted
      by_cases hne : admitted = []
      · obtain ⟨user, hu⟩ := Option.isSome_iff_exists.mp huser
        exact .admitted hmem hu (Or.inl hne)
      · obtain ⟨user, hu, hvouches⟩ := Directory.vouches_of_admits hadmits hne
        exact .admitted hmem hu (Or.inr hvouches)
  | webservice name => exact .outside hmem (decide_eq_true_eq.mp hstarted)

theorem trigger_disarm {name : String} (ha : action ∈ s.graph.workflow.globalActions)
    (h : ¬ s.Starts record world action (.trigger name)) :
    (s.disarm action.id).trigger record world name = s.trigger record world name := by
  have hfound : ((s.disarm action.id).graph.workflow.globalActions.find? fun a => a.answersTo name) =
      s.graph.workflow.globalActions.find? fun a => a.answersTo name := by
    show ((s.graph.workflow.disarm action.id).globalActions.find? _) = _
    rw [Workflow.disarm_find?_answersTo]
    cases hf : s.graph.workflow.globalActions.find? fun a => a.answersTo name with
    | none => rfl
    | some found =>
        have hanswers := List.find?_some (p := fun a : GlobalAction => a.answersTo name) hf
        rw [Option.map_some, GlobalAction.disarm_of_ne]
        intro hid
        rw [Graph.eq_of_action_id (List.mem_of_find?_eq_some hf) ha hid] at hanswers
        unfold GlobalAction.answersTo at hanswers
        exact h (.called (List.contains_iff_mem.mp hanswers))
  unfold trigger
  simp only [hfound, bindings_disarm, firstTriggered_disarm, goOn_disarm, move_disarm,
    runItems_disarm]
  rfl

theorem runGlobal_disarm {id : String} (ha : action ∈ s.graph.workflow.globalActions)
    (h : ¬ s.Starts record world action (.runGlobal id)) :
    (s.disarm action.id).runGlobal record world id = s.runGlobal record world id := by
  have hfound : (s.disarm action.id).graph.workflow.globalAction? id =
      (s.graph.workflow.globalAction? id).map (GlobalAction.disarm action.id) :=
    s.graph.workflow.disarm_globalAction? action.id id
  unfold runGlobal
  simp only [hfound, runItems_disarm]
  cases hf : s.graph.workflow.globalAction? id with
  | none => rfl
  | some found =>
      simp only [Option.map_some, GlobalAction.disarm_triggers]
      have hid : found.id = id := by simpa using List.find?_some hf
      by_cases hne : found.id = action.id
      · have heq := Graph.eq_of_action_id (List.mem_of_find?_eq_some hf) ha hne
        subst heq hid
        have hnot : found.triggers.any (s.startedBy (Pass.start record world)) = false :=
          Bool.eq_false_iff.mpr fun hany => h (starts_of_startedBy hany)
        have hnot' : found.triggers.any ((s.disarm found.id).startedBy (Pass.start record world)) =
            false := hnot
        rw [if_neg (Bool.eq_false_iff.mp hnot), if_neg (Bool.eq_false_iff.mp hnot')]
        rfl
      · rw [GlobalAction.disarm_of_ne hne]
        rfl

/-- **Nothing of a global action is performed unless it is started.**  An operation that does not
start it does the same and answers the same as if the action had no items. -/
theorem operate_disarm_of_not_starts {op : Operation} (ha : action ∈ s.graph.workflow.globalActions)
    (h : ¬ s.Starts record world action op) :
    (s.disarm action.id).operate op record world = s.operate op record world := by
  cases op with
  | run =>
      show (s.disarm action.id).run record world = s.run record world
      unfold run
      simp only [goOn_disarm]
      rfl
  | submit id form =>
      show (s.disarm action.id).submit record world id form = s.submit record world id form
      unfold submit
      simp only [goOn_disarm, bindings_disarm, noteCondition_disarm, holds_disarm]
      rfl
  | trigger name => exact trigger_disarm ha h
  | runGlobal id => exact runGlobal_disarm ha h

end Scene
end Docket
