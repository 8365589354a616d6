import Docket.Proofs.Engine.Operation
import Docket.Proofs.Service.Locks
import Docket.Service.Change
import Docket.Service.Look
import Mathlib.Logic.Relation

/-! # Requests at the same time

Requests come to the service in any number, and their steps come in any order, with the steps of the
worker that takes jobs out of the queue in between.  `Traffic` is the service together with how far
everybody is, and with a trace of what the tasks and the worker did.

* `Traffic.Moved` lists what a turn can do, and `Traffic.holds_after?` is the induction over runs.
* `Traffic.Moved.serves` says that the locks of the service serve the tasks, turn by turn.  Hence a
  task that has entered is alone with its record (`Traffic.alone`). -/

namespace Docket

/-! ### Looks -/

namespace Look.Stage

/-- The record that a look has seen so far. -/
def record? : Look.Stage → Option Record
  | .begun => none
  | .found _ r | .surfaced _ r _ => some r
  | .finished answer => answer.toOption.map RecordView.record

end Look.Stage

namespace Service

variable {s next : Service} {l : Look} {stage after : Look.Stage}

/-- A look changes nothing of the service but the world, and sees one version of the record. -/
theorem Looked.cases (h : s.Looked l stage next after) :
    (∃ world, next = { s with world }) ∧ ∀ r, after.record? = some r →
      stage.record? = some r ∨ ∃ g, s.find l.recordId = .ok (g, r) := by
  cases h with
  | missed => exact ⟨⟨_, rfl⟩, fun r hr => nomatch hr⟩
  | @found g _ hfind => exact ⟨⟨_, rfl⟩, fun r hr => Or.inr ⟨g, Option.some.inj hr ▸ hfind⟩⟩
  | refused ha => exact ⟨ask_eq ha, fun r hr => nomatch hr⟩
  | surfaced ha => exact ⟨ask_eq ha, fun r hr => Or.inl hr⟩
  | unanswered ha => exact ⟨ask_eq ha, fun r hr => nomatch hr⟩
  | answered ha => exact ⟨ask_eq ha, fun r hr => Or.inl hr⟩

/-- The steps of a look, one after the other, come to what `Service.look` answers. -/
theorem lookStep_look (s : Service) (l : Look) :
    Relation.ReflTransGen (fun a b : Service × Look.Stage => a.1.lookStep l a.2 = some b)
      (s, .begun) ((s.look l).1, .finished (s.look l).2) := by
  unfold look
  split
  · next e hfind =>
    exact .single (by simp only [lookStep, hfind])
  · next g r hfind =>
    have hfound : s.lookStep l .begun = some (s, .found g r) := by simp only [lookStep, hfind]
    refine .head hfound ?_
    split
    · next s' e hsurface =>
      exact .single (by simp only [lookStep, hsurface])
    · next s' actions hsurface =>
      have hsurfaced : s.lookStep l (.found g r) = some (s', .surfaced g r actions) := by
        simp only [lookStep, hsurface]
      refine .head hsurfaced (.single ?_)
      simp only [lookStep]
      split
      · next hmessages => rw [hmessages]; rfl
      · next hmessages => rw [hmessages]; rfl

end Service

/-! ### Turns -/

/-- The requests that may come: changes, each told apart by its place, and looks. -/
structure Requests where
  task : ℕ → Task
  look : ℕ → Look
  number_eq : ∀ n, (task n).number = n

/-- Whose turn it is. -/
inductive Turn where
  | task (n : ℕ)
  | look (n : ℕ)
  | worker
deriving DecidableEq, Repr

/-- What is written down of a turn. -/
inductive Event where
  /-- A task came from one stage to the next. -/
  | step (n : ℕ) (before after : Stage)
  /-- The worker took a job out of the queue. -/
  | took (job : AfterJob)

/-- What happened, in order. -/
abbrev Trace := List Event

theorem Trace.filterMap_concat {α : Type} (f : Event → Option α) (trace : Trace) (event : Event) :
    (trace ++ [event]).filterMap f = trace.filterMap f ++ (f event).toList := by
  rw [List.filterMap_append]
  cases h : f event with
  | none => rw [List.filterMap_cons_none h]; rfl
  | some a => rw [List.filterMap_cons_some h]; rfl

/-- What is said of one task. -/
def byTask {α : Type} (n : ℕ) (l : List (ℕ × α)) : List α :=
  l.filterMap fun said => if said.1 = n then some said.2 else none

section ByTask

variable {α : Type} {n : ℕ} {a : α} {l : List (ℕ × α)}

theorem byTask_concat (n m : ℕ) (a : α) (l : List (ℕ × α)) :
    byTask n (l ++ [(m, a)]) = byTask n l ++ if m = n then [a] else [] := by
  unfold byTask
  rw [List.filterMap_append]
  congr 1
  by_cases hm : m = n <;> simp [hm]

theorem mem_byTask : a ∈ byTask n l ↔ (n, a) ∈ l := by
  unfold byTask
  rw [List.mem_filterMap]
  constructor
  · rintro ⟨⟨m, b⟩, hmem, hb⟩
    split at hb
    · next hm =>
      cases hb
      exact hm ▸ hmem
    · cases hb
  · exact fun h => ⟨_, h, if_pos rfl⟩

end ByTask

/-- The service, how far the tasks and the looks are, and what happened so far. -/
structure Traffic where
  service : Service
  stage : ℕ → Stage
  sight : ℕ → Look.Stage
  trace : Trace

namespace Traffic

def start (s : Service) : Traffic := ⟨s, fun _ => .begun, fun _ => .begun, []⟩

/-- The traffic when a task has come to its next stage. -/
def advance (t : Traffic) (n : ℕ) (service : Service) (after : Stage) : Traffic :=
  { t with
    service
    stage := Function.update t.stage n after
    trace := t.trace ++ [.step n (t.stage n) after] }

theorem advance_self (t : Traffic) (n : ℕ) (service : Service) (after : Stage) :
    (t.advance n service after).stage n = after := Function.update_self ..

theorem advance_of_ne (t : Traffic) {n m : ℕ} (h : m ≠ n) (service : Service) (after : Stage) :
    (t.advance n service after).stage m = t.stage m := Function.update_of_ne h ..

theorem advance_trace (t : Traffic) (n : ℕ) (service : Service) (after : Stage) :
    (t.advance n service after).trace = t.trace ++ [.step n (t.stage n) after] := rfl

/-- The traffic after a turn; there is nothing to do for who is finished or has to wait. -/
def next? (rs : Requests) (t : Traffic) : Turn → Option Traffic
  | .task n => (t.service.step (rs.task n) (t.stage n)).map fun (service, after) =>
      t.advance n service after
  | .look n => (t.service.lookStep (rs.look n) (t.sight n)).map fun (service, after) =>
      { t with service, sight := Function.update t.sight n after }
  | .worker => t.service.takeJob?.map fun (job, service) =>
      { t with service, trace := t.trace ++ [.took job] }

/-- The traffic after turns one after the other. -/
def after? (rs : Requests) (t : Traffic) (turns : List Turn) : Option Traffic :=
  turns.foldlM (next? rs) t

/-- What a turn can do. -/
inductive Moved (rs : Requests) (t : Traffic) : Traffic → Prop
  | task {n : ℕ} {service : Service} {after : Stage} :
      t.service.Stepped (rs.task n) (t.stage n) service after →
      Moved rs t (t.advance n service after)
  | look {n : ℕ} {service : Service} {after : Look.Stage} :
      t.service.Looked (rs.look n) (t.sight n) service after →
      Moved rs t { t with service, sight := Function.update t.sight n after }
  | took {job : AfterJob} {service : Service} : t.service.takeJob? = some (job, service) →
      Moved rs t { t with service, trace := t.trace ++ [.took job] }

variable {rs : Requests} {s : Service} {t u : Traffic}

theorem next?_moved {turn : Turn} (h : t.next? rs turn = some u) : t.Moved rs u := by
  cases turn with
  | task n =>
      obtain ⟨⟨service, after⟩, hstep, rfl⟩ := Option.map_eq_some_iff.mp h
      exact .task (Service.step_stepped hstep)
  | look n =>
      obtain ⟨⟨service, after⟩, hstep, rfl⟩ := Option.map_eq_some_iff.mp h
      exact .look (Service.lookStep_looked hstep)
  | worker =>
      obtain ⟨⟨job, service⟩, htake, rfl⟩ := Option.map_eq_some_iff.mp h
      exact .took htake

theorem after?_concat (rs : Requests) (t : Traffic) (turns : List Turn) (turn : Turn) :
    t.after? rs (turns ++ [turn]) = (t.after? rs turns).bind fun t => t.next? rs turn := by
  unfold after?
  rw [List.foldlM_append]
  cases List.foldlM (next? rs) t turns with
  | none => rfl
  | some u => simp [List.foldlM_cons]

/-- **What holds at the start and is kept by every turn holds after every run.** -/
theorem holds_after? {P : Traffic → Prop} (hstart : P (.start s))
    (hmoved : ∀ {t u : Traffic}, t.Moved rs u → P t → P u) {turns : List Turn}
    (h : (start s).after? rs turns = some t) : P t := by
  induction turns using List.reverseRecOn generalizing t with
  | nil =>
      cases h
      exact hstart
  | append_singleton turns turn ih =>
      rw [after?_concat, Option.bind_eq_some_iff] at h
      obtain ⟨before, hbefore, hturn⟩ := h
      exact hmoved (next?_moved hturn) (ih hbefore)

theorem begun_of_not_mem {turns : List Turn} {n : ℕ} (hn : .task n ∉ turns)
    (h : (start s).after? rs turns = some t) : t.stage n = .begun := by
  induction turns using List.reverseRecOn generalizing t with
  | nil =>
      cases h
      rfl
  | append_singleton turns turn ih =>
      rw [after?_concat, Option.bind_eq_some_iff] at h
      obtain ⟨before, hbefore, hturn⟩ := h
      obtain ⟨hinit, hlast⟩ := not_or.mp (mt List.mem_append.mpr hn)
      have hstage := ih hinit hbefore
      cases turn with
      | task m =>
          obtain ⟨⟨service, after⟩, -, rfl⟩ := Option.map_eq_some_iff.mp hturn
          rw [advance_of_ne before fun hnm : n = m => hlast (hnm ▸ List.mem_singleton_self _)]
          exact hstage
      | look m =>
          obtain ⟨_, -, rfl⟩ := Option.map_eq_some_iff.mp hturn
          exact hstage
      | worker =>
          obtain ⟨_, -, rfl⟩ := Option.map_eq_some_iff.mp hturn
          exact hstage

end Traffic

/-! ### The locks of the service -/

/-- Whether a task at a stage is in, or else waits, if it does either. -/
def Stage.isIn? : Stage → Option Bool
  | .begun | .finished _ => none
  | .waiting => some false
  | _ => some true

/-- Where a task stays while it is at a stage. -/
def Task.stay? (task : Task) (stage : Stage) : Option Stay :=
  stage.isIn?.map fun isIn => ⟨task.recordId, isIn⟩

theorem Service.Stepped.serves {s next : Service} {task : Task} {stage after : Stage}
    {stays : ℕ → Option Stay} (h : s.Stepped task stage next after)
    (hserves : s.locks.Serves stays) (hstay : stays task.number = task.stay? stage) :
    next.locks.Serves (Function.update stays task.number (task.stay? after)) := by
  have hsame : after.isIn? = stage.isIn? →
      s.locks.Serves (Function.update stays task.number (task.stay? after)) := by
    intro he
    unfold Task.stay? at hstay ⊢
    rw [he, ← hstay, Function.update_eq_self]
    exact hserves
  cases h with
  | reserved => exact hserves.reserve hstay _
  | entered henter => exact hserves.enter hstay henter
  | left => exact hserves.leave task.number
  | _ => exact hsame rfl

namespace Traffic

variable {rs : Requests} {s : Service} {t u : Traffic} {n m : ℕ}

/-- Where the tasks stay. -/
def stays (rs : Requests) (t : Traffic) (n : ℕ) : Option Stay := (rs.task n).stay? (t.stage n)

/-- **A turn keeps the locks in service.** -/
theorem Moved.serves (h : t.Moved rs u) (hserves : t.service.locks.Serves (t.stays rs)) :
    u.service.locks.Serves (u.stays rs) := by
  cases h with
  | @task n service after hstep =>
      have hnext := hstep.serves hserves (by rw [rs.number_eq]; rfl)
      rw [rs.number_eq] at hnext
      refine (congrArg service.locks.Serves (funext fun m => ?_)).mpr hnext
      unfold stays
      by_cases hm : m = n
      · rw [hm, advance_self, Function.update_self]
      · rw [advance_of_ne t hm, Function.update_of_ne hm]
  | look hlook =>
      obtain ⟨⟨world, rfl⟩, -⟩ := hlook.cases
      exact hserves
  | took htake =>
      obtain ⟨rest, -, rfl⟩ := Service.takeJob?_eq htake
      exact hserves

theorem serves_start (rs : Requests) (h : s.locks = .empty) :
    (start s).service.locks.Serves ((start s).stays rs) := by
  show s.locks.Serves _
  rw [h]
  exact Locks.serves_empty

theorem stays_of_isIn? {isIn : Bool} (h : (t.stage n).isIn? = some isIn) :
    t.stays rs n = some ⟨(rs.task n).recordId, isIn⟩ := by
  unfold stays Task.stay?
  rw [h, Option.map_some]

/-- A task that has entered is alone with its record. -/
theorem alone (hserves : t.service.locks.Serves (t.stays rs)) (hn : (t.stage n).isIn? = some true)
    (hm : (t.stage m).isIn? = some true) (hid : (rs.task n).recordId = (rs.task m).recordId) :
    n = m := by
  have hstays : t.stays rs m = some ⟨(rs.task n).recordId, true⟩ := by
    rw [stays_of_isIn? hm, hid]
  exact hserves.exclusive (stays_of_isIn? hn) hstays

end Traffic

/-! ### A small service

A service with one request for advice, about which somebody is called by telephone.  It is sent out,
visited again and withdrawn by three tasks that come at the same time, while a fourth makes another
request and somebody looks. -/

namespace Sample

def call : Item := item "call" (.notify ⟨.sms, "123", "A request", none⟩)

def telephone : Workflow where
  id := "request"
  name := "Request"
  initial := "draft"
  statuses := [⟨"draft", "Draft", [ask], false⟩, ⟨"advice", "Advice", [call], false⟩,
    ⟨"closed", "Closed", [], true⟩]
  functions := ∅
  globalActions := [⟨"withdraw", "Withdraw", [.webservice "withdrawn"],
    [item "drop" (.jump ⟨"closed", false, .immediate⟩)]⟩]

theorem telephone_check : telephone.check .default = .ok () := by decide +kernel

def service : Service where
  engine := .ofSettings { EngineSettings.default with deferNotifications := true } .accepting
  workflows := Keyed.empty.insert ⟨.default, telephone, telephone_check⟩
  store := .working (Keyed.empty.insert (Record.create telephone .nil now ∅ (some "ada")))
  locks := .empty
  queue := some (.opened [])
  world := world

def change : ℕ → Change
  | 0 => .submit "ask" ∅
  | 1 => .trigger "withdrawn"
  | 2 => .create "request" ∅
  | _ => .run

def requests : Requests where
  task n := ⟨n, if n = 2 then ⟨1⟩ else .nil, some "ada", now, change n⟩
  look _ := ⟨.nil, some "ada", now⟩
  number_eq _ := rfl

/-- The tasks take their turns: 0, then 3, then 1 work on the one request, and 2 on the other. -/
def turns : List Turn :=
  [.task 0, .task 3, .task 1, .task 0, .look 0, .task 2, .task 0, .task 0, .task 2, .task 0,
    .task 2, .task 0, .look 0, .task 0, .task 2, .task 0, .task 3, .task 3, .worker, .task 3,
    .task 2, .task 3, .task 2, .task 3, .look 0, .task 3, .task 3, .task 1, .task 2, .task 1,
    .task 1, .task 1, .task 1, .task 1]

end Sample
end Docket
