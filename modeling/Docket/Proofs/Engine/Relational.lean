import Docket.Proofs.Engine.Operation

/-! # Two scenes that deliver differently

Two scenes may differ in what becomes of notices: who answers to them, and whether they are sent at
once or left for later.  `Scene.delivering` exchanges both.  Operations on the same record then take
the same course in the two scenes, because nothing that a notice leads to is ever looked at again.

* `Pass.AlikeButEffects` relates passes that agree in all that the further course depends on.
  `Pass.SameEffects` says that a step has added nothing to the effects of a pass.
* `Scene.EffectsKeep` packs what has to be shown of a relation between the passes of the two scenes,
  effect by effect, for every function `X` of a pass to keep it (`EffectsKeep.X`).
* `Scene.operate_sameAnswer` is the statement about operations: both are refused for the same reason,
  or both are done and end as related passes. -/

namespace Docket

open Expression (Variables)

/-- The scene in which another notifier answers, and notices are left for later or not. -/
def Scene.delivering (s : Scene) (n : Notifier) (deferred : Bool) : Scene :=
  { s with engine := { s.engine with
      notifier := n
      settings := { s.engine.settings with deferNotifications := deferred } } }

/-- Two passes that differ at most in what they have recorded, sent and left for later. -/
structure Pass.AlikeButEffects (p q : Pass) : Prop where
  record : q.record = p.record
  directory : q.world.directory = p.world.directory
  hops : q.hops = p.hops
  ending : q.ending = p.ending

theorem Pass.AlikeButEffects.symm {p q : Pass} (h : p.AlikeButEffects q) : q.AlikeButEffects p :=
  ⟨h.record.symm, h.directory.symm, h.hops.symm, h.ending.symm⟩

theorem Pass.AlikeButEffects.trans {p q r : Pass} (h : p.AlikeButEffects q)
    (h' : q.AlikeButEffects r) : p.AlikeButEffects r :=
  ⟨h'.record.trans h.record, h'.directory.trans h.directory, h'.hops.trans h.hops,
    h'.ending.trans h.ending⟩

/-- `p'` has recorded, sent and left for later what `p` has. -/
structure Pass.SameEffects (p p' : Pass) : Prop where
  log : p'.world.log = p.world.log
  sent : p'.world.sent = p.world.sent
  failures : p'.failures = p.failures
  jobs : p'.jobs = p.jobs

namespace Scene

/-- What has to be shown of a relation between passes of two scenes for the effects of items to keep
it.  It holds only of passes that are alike but for their effects, and depends on nothing but these
where both passes go on to passes that are alike again. -/
structure EffectsKeep (s : Scene) (n : Notifier) (deferred : Bool) (R : Pass → Pass → Prop) :
    Prop where
  alike : ∀ {p q : Pass}, R p q → p.AlikeButEffects q
  onward : ∀ {p q p' q' : Pass}, R p q → p.SameEffects p' → q.SameEffects q' →
    p'.AlikeButEffects q' → R p' q'
  fail : ∀ {p q : Pass} (item : Item) (kind : FailureKind) (cause : String),
    R p q → R (s.fail item kind cause p) (s.fail item kind cause q)
  deliver : ∀ {p q : Pass} (item : Item) (notice : Notice),
    R p q → R (s.deliver item notice p) ((s.delivering n deferred).deliver item notice q)
  sync : ∀ {p q : Pass} (item : Item) (sync : RoleSync), R p q →
    R { p with jobs := p.jobs ++ [.syncRole (s.site p item) sync] }
      { q with jobs := q.jobs ++ [.syncRole (s.site q item) sync] }

/-- Related passes with the same result. -/
inductive SameResult (R : Pass → Pass → Prop) {α : Type} : Pass × α → Pass × α → Prop
  | intro {p q : Pass} (a : α) : R p q → SameResult R (p, a) (q, a)

theorem SameResult.passes {R : Pass → Pass → Prop} {α : Type} {a b : Pass × α}
    (h : SameResult R a b) : R a.1 b.1 := by
  cases h with
  | intro _ hrel => exact hrel

/-- The same refusal, or the same answer with related passes. -/
inductive SameAnswer (R : Pass → Pass → Prop) : Reply Outcome → Reply Outcome → Prop
  | refused {p q : Pass} (e : EngineError) : R p q → SameAnswer R (refuse p e) (refuse q e)
  | finished {p q : Pass} (a : Except EngineError Unit) : R p q →
      SameAnswer R (finish (p, a)) (finish (q, a))

namespace EffectsKeep

variable {s : Scene} {n : Notifier} {deferred : Bool} {R : Pass → Pass → Prop}
  (h : s.EffectsKeep n deferred R) {p q : Pass} (hpq : R p q)

include h hpq

/-! ### What passes by the notices -/

theorem site (item : Item) : s.site q item = s.site p item := by
  unfold Scene.site
  rw [(h.alike hpq).record]

theorem bindings : s.bindings q = s.bindings p := by
  unfold Scene.bindings
  rw [(h.alike hpq).record]

theorem admits (admitted : List String) : s.admits q admitted = s.admits p admitted := by
  unfold Scene.admits
  rw [(h.alike hpq).record, (h.alike hpq).directory]

theorem resolver (split : Bool) : s.resolver q split = s.resolver p split := by
  unfold Scene.resolver
  rw [(h.alike hpq).record, (h.alike hpq).directory]

theorem failAll (item : Item) (misses : List Miss) :
    R (s.failAll item misses p) (s.failAll item misses q) := by
  unfold Scene.failAll
  induction misses generalizing p q with
  | nil => exact hpq
  | cons miss rest ih => exact ih (h.fail item _ _ hpq)

theorem noteCondition (vars : Variables) (item : Item) :
    R (s.noteCondition vars item p) (s.noteCondition vars item q) := by
  unfold Scene.noteCondition
  cases item.condition with
  | none => exact hpq
  | some source =>
      simp only
      cases s.engine.rules.condition vars source with
      | ok _ => exact hpq
      | error e => exact h.fail item _ _ hpq

theorem computedRoles (vars : Variables) (item : Item) (dispatch : Dispatch) (source : String) :
    (s.computedRoles vars item dispatch source q).1 =
      (s.computedRoles vars item dispatch source p).1 ∧
    R (s.computedRoles vars item dispatch source p).2
      (s.computedRoles vars item dispatch source q).2 := by
  unfold Scene.computedRoles
  simp only [h.resolver hpq]
  cases s.engine.rules.evaluate vars source with
  | error e => exact ⟨rfl, h.fail item _ _ hpq⟩
  | ok value =>
      simp only
      cases dispatch.rules.find? fun r => ruleMatches s.engine.settings.coercion value r.value with
      | none => exact ⟨rfl, hpq⟩
      | some rule => exact ⟨rfl, h.failAll hpq item _⟩

theorem specifiedRoles (vars : Variables) (item : Item) (spec : String) :
    (s.specifiedRoles vars item spec q).1 = (s.specifiedRoles vars item spec p).1 ∧
    R (s.specifiedRoles vars item spec p).2 (s.specifiedRoles vars item spec q).2 := by
  unfold Scene.specifiedRoles
  simp only [h.resolver hpq]
  cases (s.resolver p false).expand vars spec with
  | error miss => exact ⟨rfl, h.failAll hpq item _⟩
  | ok values => exact ⟨rfl, h.failAll hpq item _⟩

theorem dispatchRoles (vars : Variables) (item : Item) (dispatch : Dispatch) :
    (s.dispatchRoles vars item dispatch q).1 = (s.dispatchRoles vars item dispatch p).1 ∧
    R (s.dispatchRoles vars item dispatch p).2 (s.dispatchRoles vars item dispatch q).2 := by
  unfold Scene.dispatchRoles
  cases dispatch.source with
  | some source => exact h.computedRoles hpq vars item dispatch source
  | none =>
      cases dispatch.spec with
      | some spec => exact h.specifiedRoles hpq vars item spec
      | none => exact ⟨rfl, hpq⟩

theorem performDispatch (vars : Variables) (item : Item) (dispatch : Dispatch) :
    R (s.performDispatch vars item dispatch p) (s.performDispatch vars item dispatch q) := by
  obtain ⟨hroles, hrel⟩ := h.dispatchRoles hpq vars item dispatch
  unfold Scene.performDispatch
  simp only [hroles]
  split
  · exact hrel
  · obtain ⟨hrecord, hdirectory, hhops, hending⟩ := h.alike hrel
    refine h.onward hrel ⟨rfl, rfl, rfl, rfl⟩ ⟨rfl, rfl, rfl, rfl⟩ ⟨?_, hdirectory, hhops, hending⟩
    simp only [hrecord]

theorem recipients (vars : Variables) (item : Item) (notification : Notification) :
    (s.recipients vars item notification q).1 = (s.recipients vars item notification p).1 ∧
    R (s.recipients vars item notification p).2 (s.recipients vars item notification q).2 := by
  unfold Scene.recipients
  simp only [h.resolver hpq]
  cases notification.channel with
  | sms =>
      simp only
      cases s.engine.rules.render vars notification.recipients with
      | ok v => exact ⟨rfl, hpq⟩
      | error e => exact ⟨rfl, h.fail item _ _ hpq⟩
  | webservice => exact ⟨rfl, h.failAll hpq item _⟩

theorem performRole (item : Item) (operation : RoleOperation) (mode : RoleChangeMode)
    (user : String) (nameIds : List String) (role : String) :
    R (s.performRole item operation mode user nameIds p role)
      (s.performRole item operation mode user nameIds q role) := by
  have halike := h.alike hpq
  unfold Scene.performRole
  rw [halike.directory]
  cases changeRole operation user role p.world.directory with
  | error e => exact h.fail item _ _ hpq
  | ok changed =>
      have hchanged : R { p with world := { p.world with directory := changed.2 } }
          { q with world := { q.world with directory := changed.2 } } :=
        h.onward hpq ⟨rfl, rfl, rfl, rfl⟩ ⟨rfl, rfl, rfl, rfl⟩
          ⟨halike.record, rfl, halike.hops, halike.ending⟩
      simp only
      split
      · exact h.sync item _ hchanged
      · exact hchanged

theorem performRoles (vars : Variables) (item : Item) (operation : RoleOperation)
    (change : RoleChange) :
    R (s.performRoles vars item operation change p) (s.performRoles vars item operation change q) := by
  have hfold : ∀ (user : String) (nameIds roles : List String) {p q : Pass}, R p q →
      R (roles.foldl (s.performRole item operation change.mode user nameIds) p)
        (roles.foldl (s.performRole item operation change.mode user nameIds) q) := by
    intro user nameIds roles
    induction roles with
    | nil => exact id
    | cons role rest ih =>
        exact fun hpq => ih (h.performRole hpq item operation change.mode user nameIds role)
  unfold Scene.performRoles
  rw [(h.alike hpq).record]
  cases p.record.submitter with
  | none => exact hpq
  | some user =>
      simp only [h.resolver hpq]
      have hmisses := h.failAll hpq item ((s.resolver p false).resolve vars change.spec).2
      simp only [(h.alike hmisses).directory]
      exact hfold user _ _ hmisses

/-! ### What an item does -/

theorem performNotify (vars : Variables) (item : Item) (notification : Notification) :
    R (s.performNotify vars item notification p)
      ((s.delivering n deferred).performNotify vars item notification q) := by
  obtain ⟨hrecipients, hrel⟩ := h.recipients hpq vars item notification
  have hsame : (s.delivering n deferred).recipients vars item notification q =
      s.recipients vars item notification q := rfl
  have hrules : (s.delivering n deferred).engine.rules = s.engine.rules := rfl
  unfold Scene.performNotify
  simp only [hsame, hrules, hrecipients]
  split
  · exact hrel
  · cases s.engine.rules.renderText vars notification.body with
    | error e => exact h.fail item _ _ hrel
    | ok body =>
        have hmetadata : metadata (s.recipients vars item notification q).2 item notification =
            metadata (s.recipients vars item notification p).2 item notification := by
          unfold metadata
          rw [(h.alike hrel).record]
        simp only [hmetadata]
        exact h.deliver item _ hrel

theorem perform (vars : Variables) (item : Item) : SameResult R (s.perform vars item p)
    ((s.delivering n deferred).perform vars item q) := by
  unfold Scene.perform
  cases item.action with
  | jump jump =>
      have hsame : (s.delivering n deferred).jumpMove q jump = s.jumpMove p jump := by
        show s.jumpMove q jump = s.jumpMove p jump
        unfold jumpMove
        rw [(h.alike hpq).record]
      simp only [hsame]
      exact .intro _ hpq
  | dispatch dispatch => exact .intro _ (h.performDispatch hpq vars item dispatch)
  | notify notification => exact .intro _ (h.performNotify hpq vars item notification)
  | changeRole operation change => exact .intro _ (h.performRoles hpq vars item operation change)
  | message _ | choice _ | edit _ => exact .intro _ hpq

theorem move (item : Item) (m : Move) :
    SameResult R (s.move item m p) ((s.delivering n deferred).move item m q) := by
  have halike := h.alike hpq
  show SameResult R (s.move item m p) (s.move item m q)
  unfold Scene.move
  rw [halike.hops, halike.record]
  split
  · have hfail := h.fail item .tooManyJumps
      ("too many jumps (limit " ++ toString s.engine.settings.maxHops ++ ")") hpq
    refine .intro _ (h.onward hfail ⟨rfl, rfl, rfl, rfl⟩ ⟨rfl, rfl, rfl, rfl⟩ ?_)
    exact ⟨halike.record, halike.directory, halike.hops, rfl⟩
  · rcases p.record.marks.resolve p.record.status m.target m.mark with ⟨marks, next | _⟩
    · refine .intro _ (h.onward hpq ⟨rfl, rfl, rfl, rfl⟩ ⟨rfl, rfl, rfl, rfl⟩ ?_)
      exact ⟨rfl, halike.directory, rfl, halike.ending⟩
    · refine .intro _ (h.onward hpq ⟨rfl, rfl, rfl, rfl⟩ ⟨rfl, rfl, rfl, rfl⟩ ?_)
      exact ⟨rfl, halike.directory, rfl, halike.ending⟩

/-! ### Lists of items -/

theorem visit (vars : Variables) (items : List Item) :
    SameResult R (s.visit vars items p) ((s.delivering n deferred).visit vars items q) := by
  induction items generalizing p q with
  | nil => exact .intro _ hpq
  | cons item rest ih =>
      have hnote := h.noteCondition hpq vars item
      have hholds : (s.delivering n deferred).holds vars item = s.holds vars item := rfl
      have hsame : (s.delivering n deferred).noteCondition vars item q =
        s.noteCondition vars item q := rfl
      unfold Scene.visit
      simp only [hholds, hsame]
      split
      · split
        · obtain ⟨hrecord, hdirectory, hhops, _⟩ := h.alike hnote
          exact .intro _ (h.onward hnote ⟨rfl, rfl, rfl, rfl⟩ ⟨rfl, rfl, rfl, rfl⟩
            ⟨hrecord, hdirectory, hhops, rfl⟩)
        · have hperform := h.perform hnote vars item
          generalize s.perform vars item (s.noteCondition vars item p) = a at hperform ⊢
          generalize (s.delivering n deferred).perform vars item
            (s.noteCondition vars item q) = b at hperform ⊢
          cases hperform with
          | @intro p' q' m hrel =>
              cases m with
              | none => exact ih hrel
              | some m =>
                  have hmove := h.move hrel item m
                  simp only
                  generalize s.move item m p' = a at hmove ⊢
                  generalize (s.delivering n deferred).move item m q' = b at hmove ⊢
                  cases hmove with
                  | intro result hrel =>
                      cases result with
                      | moved => exact .intro _ hrel
                      | stayed => exact ih hrel
                      | limited => exact .intro _ hrel
      · exact ih hnote

theorem performGlobal (vars : Variables) (items : List Item) :
    R (s.performGlobal vars items p) ((s.delivering n deferred).performGlobal vars items q) := by
  induction items generalizing p q with
  | nil => exact hpq
  | cons item rest ih =>
      have hnote := h.noteCondition hpq vars item
      have hholds : (s.delivering n deferred).holds vars item = s.holds vars item := rfl
      have hsame : (s.delivering n deferred).noteCondition vars item q =
        s.noteCondition vars item q := rfl
      unfold Scene.performGlobal
      simp only [hholds, hsame]
      split
      · exact ih hpq
      · split
        · have hperform := h.perform hnote vars item
          generalize s.perform vars item (s.noteCondition vars item p) = a at hperform ⊢
          generalize (s.delivering n deferred).perform vars item
            (s.noteCondition vars item q) = b at hperform ⊢
          cases hperform with
          | @intro p' q' m hrel =>
              cases m with
              | none => exact ih hrel
              | some m =>
                  have hmove := h.move hrel item { m with origin := .globalAction }
                  simp only
                  generalize s.move item { m with origin := .globalAction } p' = a at hmove ⊢
                  generalize (s.delivering n deferred).move item
                    { m with origin := .globalAction } q' = b at hmove ⊢
                  cases hmove with
                  | intro result hrel =>
                      cases result with
                      | moved => exact hrel
                      | stayed => exact ih hrel
                      | limited => exact hrel
        · exact ih hnote

theorem firstTriggered (vars : Variables) (name : String) (items : List Item) :
    SameResult R (s.firstTriggered vars name items p)
      ((s.delivering n deferred).firstTriggered vars name items q) := by
  induction items generalizing p q with
  | nil => exact .intro _ hpq
  | cons item rest ih =>
      have hnote := h.noteCondition hpq vars item
      have hholds : (s.delivering n deferred).holds vars item = s.holds vars item := rfl
      unfold Scene.firstTriggered
      cases triggeredJump? item name with
      | none => exact ih hpq
      | some jump =>
          simp only [hholds]
          split
          · exact .intro _ hnote
          · exact ih hnote

/-! ### Whole passes -/

theorem drive (left : ℕ) :
    SameResult R (s.drive left p) ((s.delivering n deferred).drive left q) := by
  have visited : ∀ {p q p' : Pass} {status : Status} {v : Visit}, R p q →
      s.visit (s.bindings p) status.items p = (p', v) → ∃ q', R p' q' ∧
        (s.delivering n deferred).visit ((s.delivering n deferred).bindings q) status.items q =
          (q', v) := by
    intro p q p' status v hpq hv
    have hvisit := h.visit hpq (s.bindings p) status.items
    rw [hv] at hvisit
    have hbindings : (s.delivering n deferred).bindings q = s.bindings p := h.bindings hpq
    rw [hbindings]
    generalize (s.delivering n deferred).visit (s.bindings p) status.items q = b at hvisit
    cases hvisit with
    | @intro _ q' _ hrel => exact ⟨q', hrel, rfl⟩
  have hgraph : (s.delivering n deferred).graph = s.graph := rfl
  -- the second pass follows the first, visit by visit
  fun_induction Scene.drive s left p generalizing q with
  | case1 left p hs =>
      unfold Scene.drive
      rw [hgraph, (h.alike hpq).record, hs]
      exact .intro _ hpq
  | case2 left p status hs p' hv =>
      obtain ⟨q', hrel, hv'⟩ := visited hpq hv
      unfold Scene.drive
      rw [hgraph, (h.alike hpq).record, hs]
      simp only [hv']
      exact .intro _ hrel
  | case3 left p status hs p' hv =>
      obtain ⟨q', hrel, hv'⟩ := visited hpq hv
      unfold Scene.drive
      rw [hgraph, (h.alike hpq).record, hs]
      simp only [hv']
      obtain ⟨hrecord, hdirectory, hhops, _⟩ := h.alike hrel
      exact .intro _ (h.onward hrel ⟨rfl, rfl, rfl, rfl⟩ ⟨rfl, rfl, rfl, rfl⟩
        ⟨hrecord, hdirectory, hhops, rfl⟩)
  | case4 p status hs p' hv =>
      obtain ⟨q', hrel, hv'⟩ := visited hpq hv
      unfold Scene.drive
      rw [hgraph, (h.alike hpq).record, hs]
      simp only [hv']
      exact .intro _ hrel
  | case5 p status hs p' left hv ih =>
      obtain ⟨q', hrel, hv'⟩ := visited hpq hv
      conv in (s.delivering n deferred).drive _ _ => unfold Scene.drive
      rw [hgraph, (h.alike hpq).record, hs]
      simp only [hv']
      exact ih hrel

theorem finish_goOn : SameAnswer R (finish (s.goOn p))
    (finish ((s.delivering n deferred).goOn q)) := by
  have hgoOn : SameResult R (s.goOn p) ((s.delivering n deferred).goOn q) := by
    unfold goOn
    rw [(h.alike hpq).ending, (h.alike hpq).hops]
    split
    · exact .intro _ hpq
    · exact h.drive hpq _
  generalize s.goOn p = a at hgoOn
  generalize (s.delivering n deferred).goOn q = b at hgoOn
  cases hgoOn with
  | intro a hrel => exact .finished a hrel

/-! ### Operations -/

theorem runItems (action : GlobalAction) : SameAnswer R (s.runItems action p)
    ((s.delivering n deferred).runItems action q) := by
  have hstatus : (s.delivering n deferred).statusOf q.record = s.statusOf p.record := by
    rw [(h.alike hpq).record]
    rfl
  have hbindings : (s.delivering n deferred).bindings q = s.bindings p := h.bindings hpq
  unfold Scene.runItems
  rw [hstatus]
  cases s.statusOf p.record with
  | error e => exact .refused e hpq
  | ok _ =>
      rw [hbindings]
      exact h.finish_goOn (h.performGlobal hpq _ action.items)

theorem noteEdit (item : Item) :
    R (s.noteEdit item p) ((s.delivering n deferred).noteEdit item q) := by
  obtain ⟨hrecord, hdirectory, hhops, hending⟩ := h.alike hpq
  refine h.onward hpq ⟨rfl, rfl, rfl, rfl⟩ ⟨rfl, rfl, rfl, rfl⟩ ⟨?_, hdirectory, hhops, hending⟩
  show (s.noteEdit item q).record = (s.noteEdit item p).record
  unfold Scene.noteEdit
  simp only [hrecord]

theorem applyEdit (item : Item) (edit : Edit) (form : Table Json) :
    R (s.applyEdit item edit form p) ((s.delivering n deferred).applyEdit item edit form q) := by
  have hfilled : R (p.filledIn form) (q.filledIn form) := by
    obtain ⟨hrecord, hdirectory, hhops, hending⟩ := h.alike hpq
    refine h.onward hpq ⟨rfl, rfl, rfl, rfl⟩ ⟨rfl, rfl, rfl, rfl⟩ ⟨?_, hdirectory, hhops, hending⟩
    unfold Pass.filledIn
    simp only [hrecord]
  rw [applyEdit_eq, applyEdit_eq]
  cases edit.target with
  | none => exact h.noteEdit hfilled item
  | some target =>
      have hmove := h.move hfilled item ⟨target, false, s.moment.origin⟩
      have horigin : (s.delivering n deferred).moment.origin = s.moment.origin := rfl
      simp only [horigin]
      generalize s.move item ⟨target, false, s.moment.origin⟩ (p.filledIn form) = a at hmove ⊢
      generalize (s.delivering n deferred).move item ⟨target, false, s.moment.origin⟩
        (q.filledIn form) = b at hmove ⊢
      cases hmove with
      | intro result hrel =>
          cases result with
          | moved => exact hrel
          | stayed => exact h.noteEdit hrel item
          | limited => exact h.noteEdit hrel item

/-- A person fires the same item in both scenes, or is refused for the same reason. -/
theorem fire (item : Item) (form : Table Json) :
    (∃ e, s.fire item form p = .error e ∧ (s.delivering n deferred).fire item form q = .error e) ∨
    ∃ p' q', s.fire item form p = .ok p' ∧ (s.delivering n deferred).fire item form q = .ok q' ∧
      R p' q' := by
  have hadmits : (s.delivering n deferred).admits q = s.admits p := by
    funext admitted
    exact h.admits hpq admitted
  unfold Scene.fire
  simp only [hadmits]
  cases item.action with
  | choice choice =>
      simp only
      by_cases had : s.admits p choice.admitted = true
      · rw [if_pos had, if_pos had]
        have hmove := h.move hpq item ⟨choice.target, choice.mark, s.moment.origin⟩
        exact Or.inr ⟨_, _, rfl, rfl, hmove.passes⟩
      · rw [if_neg had, if_neg had]
        exact Or.inl ⟨_, rfl, rfl⟩
  | edit edit =>
      simp only
      by_cases had : s.admits p edit.admitted = true
      · rw [if_pos had, if_pos had]
        cases form.names.find? fun field => !mayEdit edit field with
        | some field => exact Or.inl ⟨_, rfl, rfl⟩
        | none => exact Or.inr ⟨_, _, rfl, rfl, h.applyEdit hpq item edit form⟩
      · rw [if_neg had, if_neg had]
        exact Or.inl ⟨_, rfl, rfl⟩
  | jump _ | dispatch _ | message _ | notify _ | changeRole _ _ => exact Or.inl ⟨_, rfl, rfl⟩

end EffectsKeep

section Operations

variable {s : Scene} {n : Notifier} {deferred : Bool} {R : Pass → Pass → Prop}
  (h : s.EffectsKeep n deferred R) {record : Record} {world : World}
  (hstart : R (Pass.start record world) (Pass.start record world))

include h hstart

theorem run_sameAnswer : SameAnswer R (s.run record world)
    ((s.delivering n deferred).run record world) := by
  have hbegin : (s.delivering n deferred).begin? record = s.begin? record := rfl
  unfold run
  simp only [hbegin]
  cases s.begin? record with
  | error e => exact .refused e hstart
  | ok _ => exact h.finish_goOn hstart

theorem submit_sameAnswer (id : String) (form : Table Json) :
    SameAnswer R (s.submit record world id form)
      ((s.delivering n deferred).submit record world id form) := by
  have hbegin : (s.delivering n deferred).begin? record = s.begin? record := rfl
  have hstatus : (s.delivering n deferred).statusOf record = s.statusOf record := rfl
  unfold submit
  simp only [hbegin, hstatus]
  cases (do s.begin? record; namedItem (← s.statusOf record) id) with
  | error e => exact .refused e hstart
  | ok item =>
      have hbindings : (s.delivering n deferred).bindings (Pass.start record world) =
        s.bindings (Pass.start record world) := rfl
      have hholds : (s.delivering n deferred).holds = s.holds := rfl
      have hsame : (s.delivering n deferred).noteCondition = s.noteCondition := rfl
      have hnote := h.noteCondition hstart (s.bindings (Pass.start record world)) item
      simp only [hbindings, hholds, hsame]
      split
      · rcases h.fire hnote item form with ⟨e, he, he'⟩ | ⟨p, q, hp, hq, hrel⟩
        · rw [he, he']
          exact .refused e hnote
        · rw [hp, hq]
          exact h.finish_goOn hrel
      · exact .refused _ hnote

theorem trigger_sameAnswer (name : String) : SameAnswer R (s.trigger record world name)
    ((s.delivering n deferred).trigger record world name) := by
  have hbegin : (s.delivering n deferred).begin? record = s.begin? record := rfl
  have hstatus : (s.delivering n deferred).statusOf record = s.statusOf record := rfl
  have hbindings : (s.delivering n deferred).bindings (Pass.start record world) =
    s.bindings (Pass.start record world) := rfl
  unfold trigger
  simp only [hbegin, hstatus, hbindings]
  cases (do s.begin? record; s.statusOf record) with
  | error e => exact .refused e hstart
  | ok status =>
      have hfirst := h.firstTriggered hstart (s.bindings (Pass.start record world)) name status.items
      simp only
      generalize s.firstTriggered (s.bindings (Pass.start record world)) name status.items
        (Pass.start record world) = a at hfirst ⊢
      generalize (s.delivering n deferred).firstTriggered (s.bindings (Pass.start record world)) name
        status.items (Pass.start record world) = b at hfirst ⊢
      cases hfirst with
      | intro fired hrel =>
          cases fired with
          | some fired => exact h.finish_goOn (h.move hrel fired.1 _).passes
          | none =>
              have hgraph : (s.delivering n deferred).graph = s.graph := rfl
              simp only [hgraph]
              cases s.graph.workflow.globalActions.find? fun a => a.answersTo name with
              | none => exact .refused _ hrel
              | some action => exact h.runItems hrel action

theorem runGlobal_sameAnswer (id : String) : SameAnswer R (s.runGlobal record world id)
    ((s.delivering n deferred).runGlobal record world id) := by
  have hbegin : (s.delivering n deferred).begin? record = s.begin? record := rfl
  have hgraph : (s.delivering n deferred).graph = s.graph := rfl
  have hstarted : (s.delivering n deferred).startedBy (Pass.start record world) =
      s.startedBy (Pass.start record world) := by
    funext trigger
    cases trigger with
    | manual _ => rfl
    | webservice _ => rfl
  unfold runGlobal
  simp only [hbegin, hgraph, hstarted]
  cases s.begin? record with
  | error e => exact .refused e hstart
  | ok _ =>
      simp only
      cases s.graph.workflow.globalAction? id with
      | none => exact .refused _ hstart
      | some action =>
          simp only
          split
          · exact h.runItems hstart action
          · exact .refused _ hstart

/-- **Operations answer alike in two scenes that differ in what becomes of notices.** -/
theorem operate_sameAnswer (op : Operation) : SameAnswer R (s.operate op record world)
    ((s.delivering n deferred).operate op record world) := by
  cases op with
  | run => exact run_sameAnswer h hstart
  | submit id form => exact submit_sameAnswer h hstart id form
  | trigger name => exact trigger_sameAnswer h hstart name
  | runGlobal id => exact runGlobal_sameAnswer h hstart id

end Operations

end Scene
end Docket
