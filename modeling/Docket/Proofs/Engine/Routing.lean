import Docket.Proofs.Dispatch
import Docket.Proofs.Engine.Authority
import Docket.Proofs.Engine.Jobs
import Docket.Proofs.Engine.Report

/-! # Functions always have somebody

A dispatch routes roles only if there are any, and what it does to the functions of the record is set
algebra.  So no function of a record is ever left with an entry and without roles.

* `Scene.RoutesNothing` lists the reasons for which a dispatch has no roles to route.  They are all
  the reasons that there are (`Scene.dispatchRoles_eq_nil_iff`).
* `Scene.perform_of_routesNothing` says that such a dispatch leaves the record as it is, and
  `Scene.operate_filled` that every operation keeps the functions filled.
* `Graph.routing_lasts` says it of all calls from creation on. -/

namespace Docket

open Expression (Variables)

namespace Scene

variable {s : Scene} {vars : Variables} {item : Item} {dispatch : Dispatch} {p : Pass}

/-! ### One dispatch -/

/-- Why a dispatch has no roles to route: its variable cannot be computed, no rule matches the value,
the rule that does resolves to no role, and without a variable its specification cannot be read, or
none of the values names a role or a user, or it has none. -/
inductive RoutesNothing (s : Scene) (vars : Variables) (p : Pass) (dispatch : Dispatch) : Prop
  | incomputable {source : String} {e : Expression.Error} : dispatch.source = some source →
      s.engine.rules.evaluate vars source = .error e → RoutesNothing s vars p dispatch
  | unmatched {source : String} {value : Json} : dispatch.source = some source →
      s.engine.rules.evaluate vars source = .ok value →
      (∀ rule ∈ dispatch.rules, ruleMatches s.engine.settings.coercion value rule.value = false) →
      RoutesNothing s vars p dispatch
  | unresolved {source : String} {value : Json} {rule : DispatchRule} :
      dispatch.source = some source → s.engine.rules.evaluate vars source = .ok value →
      dispatch.rules.find? (fun r => ruleMatches s.engine.settings.coercion value r.value) =
        some rule →
      ((s.resolver p false).resolve vars rule.role).1 = [] → RoutesNothing s vars p dispatch
  | unreadable {spec : String} {miss : Miss} : dispatch.source = none → dispatch.spec = some spec →
      (s.resolver p false).expand vars spec = .error miss → RoutesNothing s vars p dispatch
  | unknown {spec : String} {values : List String} : dispatch.source = none →
      dispatch.spec = some spec → (s.resolver p false).expand vars spec = .ok values →
      (∀ value ∈ values, ∀ roles,
        roleOrUser (s.resolver p false) (Resolver.templateOf spec) value = .ok roles → roles = []) →
      RoutesNothing s vars p dispatch
  | unspecified : dispatch.source = none → dispatch.spec = none → RoutesNothing s vars p dispatch

namespace RoutesNothing

theorem dispatchRoles_eq (h : s.RoutesNothing vars p dispatch) :
    (s.dispatchRoles vars item dispatch p).1 = [] := by
  unfold dispatchRoles
  cases h with
  | incomputable hsource hvalue => simp only [hsource, computedRoles, hvalue]
  | unmatched hsource hvalue hnone =>
      have hfind := List.find?_eq_none.mpr fun rule hmem => Bool.eq_false_iff.mp (hnone rule hmem)
      simp only [hsource, computedRoles, hvalue, hfind]
  | unresolved hsource hvalue hrule hroles =>
      simp only [hsource, computedRoles, hvalue, hrule]
      exact hroles
  | unreadable hsource hspec hvalues => simp only [hsource, hspec, specifiedRoles, hvalues]
  | @unknown spec values hsource hspec hvalues hnone =>
      simp only [hsource, hspec, specifiedRoles, hvalues, List.flatMap_eq_nil_iff,
        List.forall_mem_map]
      intro value hmem
      cases hone : roleOrUser (s.resolver p false) (Resolver.templateOf spec) value with
      | ok roles => exact hnone value hmem roles hone
      | error _ => rfl
  | unspecified hsource hspec => simp only [hsource, hspec]

theorem of_computedRoles {source : String} (hsource : dispatch.source = some source)
    (h : (s.computedRoles vars item dispatch source p).1 = []) :
    s.RoutesNothing vars p dispatch := by
  unfold computedRoles at h
  split at h
  · next e hvalue => exact .incomputable hsource hvalue
  · next value hvalue =>
    split at h
    · next hrule =>
      exact .unmatched hsource hvalue fun rule hmem =>
        Bool.eq_false_iff.mpr (List.find?_eq_none.mp hrule rule hmem)
    · next rule hrule => exact .unresolved hsource hvalue hrule h

theorem of_specifiedRoles {spec : String} (hsource : dispatch.source = none)
    (hspec : dispatch.spec = some spec) (h : (s.specifiedRoles vars item spec p).1 = []) :
    s.RoutesNothing vars p dispatch := by
  unfold specifiedRoles at h
  simp only at h
  split at h
  · next miss hvalues => exact .unreadable hsource hspec hvalues
  · next values hvalues =>
    rw [List.flatMap_eq_nil_iff, List.forall_mem_map] at h
    refine .unknown hsource hspec hvalues fun value hmem roles hone => ?_
    have hnone := h value hmem
    rw [hone] at hnone
    exact hnone

end RoutesNothing

/-- **Those are all the reasons.** -/
theorem dispatchRoles_eq_nil_iff (item : Item) :
    (s.dispatchRoles vars item dispatch p).1 = [] ↔ s.RoutesNothing vars p dispatch := by
  refine ⟨fun h => ?_, fun h => h.dispatchRoles_eq⟩
  unfold dispatchRoles at h
  split at h
  · next hsource => exact .of_computedRoles hsource h
  · next hsource hspec => exact .of_specifiedRoles hsource hspec h
  · next hsource hspec => exact .unspecified hsource hspec

/-- A dispatch does nothing to the record, for one of the reasons, or it routes the roles that there
are. -/
theorem performDispatch_cases (s : Scene) (vars : Variables) (item : Item) (dispatch : Dispatch)
    (p : Pass) :
    s.RoutesNothing vars p dispatch ∧
      (s.performDispatch vars item dispatch p).record = p.record ∨
    (s.dispatchRoles vars item dispatch p).1 ≠ [] ∧
      (s.performDispatch vars item dispatch p).record = { p.record with
        buckets := p.record.buckets.dispatch dispatch.function dispatch.mode
          (s.dispatchRoles vars item dispatch p).1 } := by
  rw [← dispatchRoles_eq_nil_iff item]
  have hlogged := s.dispatchRoles_logged vars item dispatch p
  unfold performDispatch
  generalize s.dispatchRoles vars item dispatch p = found at hlogged
  obtain ⟨roles, q⟩ := found
  obtain ⟨_, _, rfl⟩ := hlogged
  simp only
  split
  · next hroles => exact Or.inl ⟨List.isEmpty_iff.mp hroles, rfl⟩
  · next hroles => exact Or.inr ⟨mt List.isEmpty_iff.mpr hroles, rfl⟩

theorem perform_dispatch (haction : item.action = .dispatch dispatch) :
    s.perform vars item p = (s.performDispatch vars item dispatch p, none) := by
  unfold perform
  rw [haction]

/-- **A dispatch that has no roles to route leaves the record as it is.** -/
theorem perform_of_routesNothing (h : s.RoutesNothing vars p dispatch)
    (haction : item.action = .dispatch dispatch) : (s.perform vars item p).1.record = p.record := by
  rw [perform_dispatch haction]
  rcases s.performDispatch_cases vars item dispatch p with ⟨_, hsame⟩ | ⟨hne, _⟩
  · exact hsame
  · exact absurd h.dispatchRoles_eq hne

theorem perform_of_not_routesNothing (h : ¬ s.RoutesNothing vars p dispatch)
    (haction : item.action = .dispatch dispatch) :
    ∃ roles, roles ≠ [] ∧ (s.perform vars item p).1.record = { p.record with
      buckets := p.record.buckets.dispatch dispatch.function dispatch.mode roles } := by
  rw [perform_dispatch haction]
  rcases s.performDispatch_cases vars item dispatch p with ⟨hnothing, _⟩ | ⟨hne, hroutes⟩
  · exact absurd hnothing h
  · exact ⟨_, hne, hroutes⟩

/-! ### One operation -/

theorem perform_filled (vars : Variables) (item : Item) (h : p.record.buckets.Filled) :
    (s.perform vars item p).1.record.buckets.Filled := by
  cases haction : item.action with
  | dispatch dispatch =>
      rw [perform_dispatch haction]
      rcases s.performDispatch_cases vars item dispatch p with ⟨_, hsame⟩ | ⟨hne, hnew⟩
      · rw [hsame]; exact h
      · rw [hnew]; exact h.dispatch hne
  | jump _ | notify _ | changeRole _ _ | message _ | choice _ | edit _ =>
      have hother : item.isDispatch = false := by simp [Item.isDispatch, haction]
      rw [(s.perform_sameRecord vars item p hother).record]
      exact h

theorem enduring_filled (s : Scene) : s.Enduring fun p => p.record.buckets.Filled where
  logged hl h := hl.record ▸ h
  perform vars item h := perform_filled vars item h
  ending _ h := h
  arrive _ _ _ h := h
  filledIn _ h := h
  noteEdit _ h := h

/-- **Every operation leaves the functions filled.** -/
theorem operate_filled (s : Scene) (op : Operation) {record : Record} (world : World)
    (h : record.buckets.Filled) : (s.operate op record world).record.buckets.Filled := by
  have hcarries : s.Carries (s.Performs record world op) fun p => p.record.buckets.Filled :=
    s.enduring_filled.carries
  obtain ⟨q, hq, hrecord, _⟩ := hcarries.operate_pass h
  rw [hrecord]
  exact hq

end Scene

/-! ### Calls one after the other -/

theorem Graph.after_filled (g : Graph) {record : Record} (h : record.buckets.Filled)
    (calls : List Call) : (g.after record calls).buckets.Filled := by
  induction calls using List.reverseRecOn with
  | nil => exact h
  | append_singleton calls c ih =>
      rw [after_concat]
      exact (c.scene g).operate_filled c.op c.world ih

/-- **Dispatch is set algebra on one function.**  On functions of which none has an entry without
roles, a dispatch of any roles does to its function what its mode says and nothing else, leaves none
without roles, and does nothing when it is done again.  So no function of a record has an entry without
roles, whatever is done to the record from its creation on.  A dispatch that has no roles to route
leaves the record as it is, and every other one routes some. -/
theorem Graph.routing_lasts :
    (∀ (b : Buckets) (function : String) (mode : DispatchMode) (roles : List String), b.Filled →
      roles ≠ [] → b.Routes (b.dispatch function mode roles) function mode roles) ∧
    (∀ (g : Graph) (id : Uuid) (now : Instant) (data : Table Json) (submitter : Option String)
      (calls : List Call),
      (g.after (Record.create g.workflow id now data submitter) calls).buckets.Filled) ∧
    ∀ (s : Scene) (vars : Variables) (item : Item) (dispatch : Dispatch) (p : Pass),
      item.action = .dispatch dispatch →
        (s.RoutesNothing vars p dispatch → (s.perform vars item p).1.record = p.record) ∧
        (¬ s.RoutesNothing vars p dispatch → ∃ roles, roles ≠ [] ∧
          (s.perform vars item p).1.record = { p.record with
            buckets := p.record.buckets.dispatch dispatch.function dispatch.mode roles }) := by
  refine ⟨fun b function mode roles hfilled hroles => hfilled.routes function mode hroles,
    fun g id now data submitter calls => ?_, fun s vars item dispatch p haction => ⟨?_, ?_⟩⟩
  · exact g.after_filled Buckets.filled_empty calls
  · exact fun hnothing => Scene.perform_of_routesNothing hnothing haction
  · exact fun hsome => Scene.perform_of_not_routesNothing hsome haction

namespace Sample

/-- A dispatch to somebody whom nobody knows. -/
def astray : Dispatch := ⟨"_desk", .set, some "nobody", none, []⟩

/-- A request at intake, before anything was done. -/
def arrived : Pass := .start routed office

theorem astray_routesNothing : desk.RoutesNothing (desk.bindings arrived) arrived astray :=
  (Scene.dispatchRoles_eq_nil_iff (item "route" (.dispatch astray))).mp (by decide +kernel)

/-- The request is routed. -/
def route : Call := ⟨desk.engine, desk.moment, .run, office⟩

end Sample

/-- A request is routed to the desk, which has somebody from then on, and routing it to somebody whom
nobody knows changes nothing. -/
theorem Graph.routing_lasts_sample :
    Buckets.Routes ∅ (Buckets.dispatch ∅ "_desk" .set ["r-1"]) "_desk" .set ["r-1"] ∧
    (Sample.desk.graph.after Sample.routed [Sample.route]).buckets.Filled ∧
    (Sample.desk.graph.after Sample.routed [Sample.route]).rolesFor "_desk" = ["r-1"] ∧
    (Sample.desk.perform (Sample.desk.bindings Sample.arrived)
      (Sample.item "route" (.dispatch Sample.astray)) Sample.arrived).1.record = Sample.routed := by
  obtain ⟨hroutes, hfilled, hnothing⟩ := Graph.routing_lasts
  refine ⟨hroutes ∅ "_desk" .set ["r-1"] Buckets.filled_empty (List.cons_ne_nil _ _), ?_,
    by decide +kernel, (hnothing _ _ _ Sample.astray _ rfl).1 Sample.astray_routesNothing⟩
  exact hfilled Sample.desk.graph .nil Sample.now ∅ (some "ada") [Sample.route]

end Docket
