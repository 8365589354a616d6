import Docket.Service.Locks
import Mathlib.Data.Set.Card
import Mathlib.Logic.Function.Basic

/-! # At most one task works on a record

Tasks reserve locks, enter them and leave them in any order, and locks that nobody wants are
dropped whenever somebody looks.  What the tasks have done so far says where they stay now, and
says so without a word about locks (`LockStep.stays`).

* `Locks.Serves` relates the locks to where the tasks stay: every task has one ticket, and its
  ticket is for the lock that is kept for its record.
* `Locks.Serves.act?` is the step, and `Locks.serves_after?` the run.
* `Locks.exclusive_lasts` is the statement about all runs: nobody is in where somebody else is, the
  lock of a record that somebody wants stays the same, and the count is right. -/

namespace Docket

/-! ### Where tasks stay -/

/-- A record that a task works on, or waits for. -/
structure Stay where
  recordId : Uuid
  isIn : Bool
deriving DecidableEq, Repr

/-- What happens to the locks of records. -/
inductive LockStep where
  | reserve (task : ℕ) (recordId : Uuid)
  | enter (task : ℕ)
  | leave (task : ℕ)
  | count
deriving DecidableEq, Repr

namespace LockStep

/-- Where the tasks stay after a step. -/
def stays (before : ℕ → Option Stay) : LockStep → ℕ → Option Stay
  | .reserve task recordId => Function.update before task (some ⟨recordId, false⟩)
  | .enter task =>
      Function.update before task ((before task).map fun stay => { stay with isIn := true })
  | .leave task => Function.update before task none
  | .count => before

/-- Where the tasks stay after steps from the beginning. -/
def staysAfter (steps : List LockStep) : ℕ → Option Stay := steps.foldl stays fun _ => none

theorem staysAfter_concat (steps : List LockStep) (step : LockStep) :
    staysAfter (steps ++ [step]) = step.stays (staysAfter steps) := by
  unfold staysAfter
  rw [List.foldl_append]
  rfl

end LockStep

namespace Locks

/-- The locks after a step, if it can be taken now: a task that has a ticket reserves no other, and
a task that waits enters only when nobody is in. -/
def act? (locks : Locks) : LockStep → Option Locks
  | .reserve task recordId =>
      if locks.tickets.any fun t => t.task = task then none else some (locks.reserve task recordId)
  | .enter task => locks.enter? task
  | .leave task => some (locks.leave task)
  | .count => some locks.count.2

/-- The locks after steps one after the other. -/
def after? (locks : Locks) (steps : List LockStep) : Option Locks := steps.foldlM act? locks

theorem after?_concat (locks : Locks) (steps : List LockStep) (step : LockStep) :
    locks.after? (steps ++ [step]) = (locks.after? steps).bind fun locks => locks.act? step := by
  unfold after?
  rw [List.foldlM_append]
  cases List.foldlM act? locks steps with
  | none => rfl
  | some locks => simp [List.foldlM_cons]

/-- The locks serve the tasks: each task that stays at a record has a ticket, and only one, for the
lock that is kept for the record, and at most one of the tickets for a lock lets its task in. -/
structure Serves (locks : Locks) (stays : ℕ → Option Stay) : Prop where
  ticket : ∀ {task : ℕ} {stay : Stay}, stays task = some stay →
    ∃ l, locks.byRecord.get? stay.recordId = some l ∧ ⟨task, l.number, stay.isIn⟩ ∈ locks.tickets
  stay : ∀ {t : Ticket}, t ∈ locks.tickets → ∃ stay, stays t.task = some stay
  single : ∀ {t u : Ticket}, t ∈ locks.tickets → u ∈ locks.tickets → t.task = u.task → t = u
  alone : ∀ {t u : Ticket}, t ∈ locks.tickets → u ∈ locks.tickets → t.lock = u.lock →
    t.isIn = true → u.isIn = true → t = u
  number_lt : ∀ {l : RecordLock}, l ∈ locks.byRecord.items → l.number < locks.next
  number_inj : ∀ {l m : RecordLock}, l ∈ locks.byRecord.items → m ∈ locks.byRecord.items →
    l.number = m.number → l = m

theorem serves_empty : Serves .empty fun _ => none where
  ticket h := nomatch h
  stay h := nomatch h
  single h := nomatch h
  alone h := nomatch h
  number_lt h := nomatch h
  number_inj h := nomatch h

theorem isWanted_eq_true {locks : Locks} {number : ℕ} :
    locks.isWanted number = true ↔ ∃ t ∈ locks.tickets, t.lock = number := by
  simp [isWanted]

theorem isHeld_eq_true {locks : Locks} {number : ℕ} :
    locks.isHeld number = true ↔ ∃ t ∈ locks.tickets, t.lock = number ∧ t.isIn = true := by
  simp [isHeld]

namespace Serves

variable {locks next : Locks} {stays : ℕ → Option Stay} {task : ℕ} {stay : Stay} {id : Uuid}

theorem of_mem (h : locks.Serves stays) {t : Ticket} (ht : t ∈ locks.tickets) :
    ∃ stay l, stays t.task = some stay ∧ locks.byRecord.get? stay.recordId = some l ∧
      t.lock = l.number ∧ t.isIn = stay.isIn := by
  obtain ⟨stay, hstay⟩ := h.stay ht
  obtain ⟨l, hl, hmem⟩ := h.ticket hstay
  rw [h.single ht hmem rfl]
  exact ⟨stay, l, hstay, hl, rfl, rfl⟩

/-! ### The steps -/

theorem get?_sweep (h : locks.Serves stays) (hstay : stays task = some stay) :
    locks.sweep.byRecord.get? stay.recordId = locks.byRecord.get? stay.recordId := by
  obtain ⟨l, hl, hmem⟩ := h.ticket hstay
  have hwanted : locks.isWanted l.number = true := isWanted_eq_true.mpr ⟨_, hmem, rfl⟩
  unfold sweep
  rw [Keyed.get?_filter, hl, Option.filter_some, if_pos hwanted]

theorem sweep (h : locks.Serves stays) : locks.sweep.Serves stays where
  ticket hstay := by
    rw [h.get?_sweep hstay]
    exact h.ticket hstay
  stay := h.stay
  single := h.single
  alone := h.alone
  number_lt hl := h.number_lt (List.mem_filter.mp hl).1
  number_inj hl hm := h.number_inj (List.mem_filter.mp hl).1 (List.mem_filter.mp hm).1

/-- A task has a ticket for the lock of a record, the tickets of the other tasks are what they were,
and the task is in only if the lock was free. -/
theorem settle (h : locks.Serves stays) {l : RecordLock} (hl : locks.byRecord.get? id = some l)
    {isIn : Bool} {tickets : List Ticket}
    (hof : ∀ {t : Ticket}, t ∈ tickets ↔
      t = ⟨task, l.number, isIn⟩ ∨ t ∈ locks.tickets ∧ t.task ≠ task)
    (hfree : isIn = true → ∀ {t : Ticket}, t ∈ locks.tickets → t.lock = l.number → t.isIn = false) :
    Serves { locks with tickets } (Function.update stays task (some ⟨id, isIn⟩)) where
  ticket {other stay} hstay := by
    by_cases ho : other = task
    · subst ho
      rw [Function.update_self] at hstay
      cases hstay
      exact ⟨l, hl, hof.mpr (Or.inl rfl)⟩
    · rw [Function.update_of_ne ho] at hstay
      obtain ⟨m, hm, hmem⟩ := h.ticket hstay
      exact ⟨m, hm, hof.mpr (Or.inr ⟨hmem, ho⟩)⟩
  stay {t} ht := by
    rcases hof.mp ht with rfl | ⟨ht, hne⟩
    · exact ⟨_, Function.update_self ..⟩
    · rw [Function.update_of_ne hne]
      exact h.stay ht
  single {t u} ht hu htask := by
    rcases hof.mp ht with rfl | ⟨ht, hne⟩
    · rcases hof.mp hu with rfl | ⟨-, hne'⟩
      · rfl
      · exact absurd htask.symm hne'
    · rcases hof.mp hu with rfl | ⟨hu, -⟩
      · exact absurd htask hne
      · exact h.single ht hu htask
  alone {t u} ht hu hlock hti hui := by
    rcases hof.mp ht with rfl | ⟨ht, -⟩
    · rcases hof.mp hu with rfl | ⟨hu, -⟩
      · rfl
      · exact absurd (hfree hti hu hlock.symm) (by simp [hui])
    · rcases hof.mp hu with rfl | ⟨hu, -⟩
      · exact absurd (hfree hui ht hlock) (by simp [hti])
      · exact h.alone ht hu hlock hti hui
  number_lt := h.number_lt
  number_inj := h.number_inj

theorem wait (h : locks.Serves stays) (hnone : stays task = none) {l : RecordLock}
    (hl : locks.byRecord.get? id = some l) :
    Serves { locks with tickets := ⟨task, l.number, false⟩ :: locks.tickets }
      (Function.update stays task (some ⟨id, false⟩)) := by
  have hother : ∀ {t : Ticket}, t ∈ locks.tickets → t.task ≠ task := by
    intro t ht he
    obtain ⟨stay, hstay⟩ := h.stay ht
    rw [he, hnone] at hstay
    cases hstay
  refine h.settle hl ?_ (fun hin => nomatch hin)
  intro t
  rw [List.mem_cons]
  exact or_congr_right (iff_self_and.mpr hother)

theorem make (h : locks.Serves stays) (hnone : locks.byRecord.get? id = none) :
    Serves { locks with
      byRecord := locks.byRecord.insert ⟨id, locks.next⟩, next := locks.next + 1 } stays := by
  have hmem : ∀ {l : RecordLock}, l ∈ (locks.byRecord.insert ⟨id, locks.next⟩).items →
      l = ⟨id, locks.next⟩ ∨ l ∈ locks.byRecord.items := fun hl => Keyed.mem_put hl
  refine ⟨fun {task stay} hstay => ?_, h.stay, h.single, h.alone, fun {l} hl => ?_,
    fun {l m} hl hm hnumber => ?_⟩
  · obtain ⟨l, hl, ht⟩ := h.ticket hstay
    refine ⟨l, ?_, ht⟩
    rw [Keyed.get?_insert, if_neg, hl]
    rintro rfl
    rw [hnone] at hl
    cases hl
  · show l.number < locks.next + 1
    rcases hmem hl with rfl | hl
    · exact Nat.lt_succ_self _
    · exact Nat.lt_succ_of_lt (h.number_lt hl)
  · rcases hmem hl with rfl | hl
    · rcases hmem hm with rfl | hm
      · rfl
      · exact absurd hnumber (h.number_lt hm).ne'
    · rcases hmem hm with rfl | hm
      · exact absurd hnumber (h.number_lt hl).ne
      · exact h.number_inj hl hm hnumber

/-- Reserving gives a ticket for the lock of the record, which is made if need be. -/
theorem reserve (h : locks.Serves stays) (hnone : stays task = none) (id : Uuid) :
    (locks.reserve task id).Serves (Function.update stays task (some ⟨id, false⟩)) := by
  simp only [Locks.reserve]
  split
  · next l hl => exact h.sweep.wait hnone hl
  · next hl =>
    have hnew : (locks.sweep.byRecord.insert ⟨id, locks.next⟩).get? id = some ⟨id, locks.next⟩ := by
      rw [Keyed.get?_insert, if_pos rfl]
    exact (h.sweep.make hl).wait hnone hnew

/-- The lock of a record is held when a task is in. -/
theorem isHeld_iff (h : locks.Serves stays) {l : RecordLock}
    (hl : locks.byRecord.get? id = some l) :
    locks.isHeld l.number = true ↔ ∃ other, stays other = some ⟨id, true⟩ := by
  rw [isHeld_eq_true]
  constructor
  · rintro ⟨t, ht, hlock, hin⟩
    obtain ⟨⟨id', isIn⟩, m, hstay, hm, htm, htin⟩ := h.of_mem ht
    obtain rfl := h.number_inj (Keyed.mem_of_get? hl) (Keyed.mem_of_get? hm) (by omega)
    obtain rfl : id = id' := (Keyed.key_of_get? hl).symm.trans (Keyed.key_of_get? hm)
    cases hin.symm.trans htin
    exact ⟨_, hstay⟩
  · rintro ⟨other, hother⟩
    obtain ⟨m, hm, hmem⟩ := h.ticket hother
    cases hl.symm.trans hm
    exact ⟨_, hmem, rfl, rfl⟩

theorem of_enter? (h : locks.Serves stays) (henter : locks.enter? task = some next) :
    ∃ id, stays task = some ⟨id, false⟩ := by
  unfold Locks.enter? at henter
  split at henter
  · next t ht =>
    have htask : t.task = task ∧ t.isIn = false := by simpa using List.find?_some ht
    obtain ⟨⟨id, isIn⟩, l, hstay, -, -, hin⟩ := h.of_mem (List.mem_of_find?_eq_some ht)
    cases htask.2.symm.trans hin
    exact ⟨id, htask.1 ▸ hstay⟩
  · cases henter

theorem enter?_eq (h : locks.Serves stays) {l : RecordLock}
    (hmem : ⟨task, l.number, false⟩ ∈ locks.tickets) :
    locks.enter? task = if locks.isHeld l.number then none else some { locks with
      tickets := locks.tickets.map fun u =>
        if u = ⟨task, l.number, false⟩ then { u with isIn := true } else u } := by
  unfold Locks.enter?
  split
  · next t ht =>
    have htask : t.task = task ∧ t.isIn = false := by simpa using List.find?_some ht
    obtain rfl := h.single (List.mem_of_find?_eq_some ht) hmem htask.1
    rfl
  · next hnone => simpa using List.find?_eq_none.mp hnone _ hmem

theorem enter?_isSome_iff (h : locks.Serves stays) (hstay : stays task = some ⟨id, false⟩) :
    (locks.enter? task).isSome = true ↔ ∀ other, stays other ≠ some ⟨id, true⟩ := by
  obtain ⟨l, hl, hmem⟩ := h.ticket hstay
  rw [h.enter?_eq hmem]
  have hheld := h.isHeld_iff hl
  cases hc : locks.isHeld l.number with
  | true =>
      obtain ⟨other, hother⟩ := hheld.mp hc
      exact iff_of_false (by simp) fun hall => hall other hother
  | false =>
      refine iff_of_true rfl fun other hother => ?_
      rw [hheld.mpr ⟨other, hother⟩] at hc
      cases hc

theorem enter (h : locks.Serves stays) (hstay : stays task = some ⟨id, false⟩)
    (henter : locks.enter? task = some next) :
    next.Serves (Function.update stays task (some ⟨id, true⟩)) := by
  obtain ⟨l, hl, hmem⟩ := h.ticket hstay
  rw [h.enter?_eq hmem] at henter
  split at henter
  · cases henter
  next hfree =>
  cases henter
  have hfree : ∀ {t : Ticket}, t ∈ locks.tickets → t.lock = l.number → t.isIn = false := by
    intro t ht hlock
    rw [← Bool.not_eq_true]
    exact fun hin => hfree (isHeld_eq_true.mpr ⟨t, ht, hlock, hin⟩)
  refine h.settle hl ?_ (fun _ => hfree)
  intro t
  rw [List.mem_map]
  constructor
  · rintro ⟨u, hu, rfl⟩
    split
    · next he => exact Or.inl (by rw [he])
    · next hne => exact Or.inr ⟨hu, fun he => hne (h.single hu hmem he)⟩
  · rintro (rfl | ⟨ht, hne⟩)
    · exact ⟨_, hmem, if_pos rfl⟩
    · exact ⟨t, ht, if_neg fun he => hne (congrArg Ticket.task he)⟩

theorem leave (h : locks.Serves stays) (task : ℕ) :
    (locks.leave task).Serves (Function.update stays task none) := by
  have hold : ∀ {t : Ticket}, t ∈ (locks.leave task).tickets →
      t ∈ locks.tickets ∧ t.task ≠ task := by
    intro t ht
    simpa [Locks.leave] using ht
  refine ⟨fun {other stay} hother => ?_, fun {t} ht => ?_,
    fun ht hu => h.single (hold ht).1 (hold hu).1, fun ht hu => h.alone (hold ht).1 (hold hu).1,
    h.number_lt, h.number_inj⟩
  · by_cases ho : other = task
    · rw [ho, Function.update_self] at hother
      cases hother
    · rw [Function.update_of_ne ho] at hother
      obtain ⟨l, hl, hmem⟩ := h.ticket hother
      exact ⟨l, hl, List.mem_filter.mpr ⟨hmem, by simpa using ho⟩⟩
  · rw [Function.update_of_ne (hold ht).2]
    exact h.stay (hold ht).1

/-- **Whatever happens to them, the locks serve the tasks.** -/
theorem act? (h : locks.Serves stays) {step : LockStep} (hact : locks.act? step = some next) :
    next.Serves (step.stays stays) := by
  cases step with
  | reserve task id =>
      simp only [Locks.act?, List.any_eq_true, decide_eq_true_eq] at hact
      split at hact
      · cases hact
      · next hnone =>
        cases hact
        refine h.reserve (Option.eq_none_iff_forall_ne_some.mpr fun stay hstay => ?_) id
        obtain ⟨l, -, hmem⟩ := h.ticket hstay
        exact hnone ⟨_, hmem, rfl⟩
  | enter task =>
      obtain ⟨id, hstay⟩ := h.of_enter? hact
      have hnext := h.enter hstay hact
      rw [LockStep.stays, hstay]
      exact hnext
  | leave task =>
      cases hact
      exact h.leave task
  | count =>
      cases hact
      exact h.sweep

/-! ### What follows for the tasks -/

theorem exclusive (h : locks.Serves stays) {a b : ℕ} (ha : stays a = some ⟨id, true⟩)
    (hb : stays b = some ⟨id, true⟩) : a = b := by
  obtain ⟨l, hl, hta⟩ := h.ticket ha
  obtain ⟨m, hm, htb⟩ := h.ticket hb
  cases hl.symm.trans hm
  exact congrArg Ticket.task (h.alone hta htb rfl rfl rfl)

theorem get?_act? (h : locks.Serves stays) (hstay : stays task = some stay) {l : RecordLock}
    (hl : locks.byRecord.get? stay.recordId = some l) {step : LockStep}
    (hact : locks.act? step = some next) : next.byRecord.get? stay.recordId = some l := by
  have hsweep := (h.get?_sweep hstay).trans hl
  cases step with
  | reserve other id =>
      simp only [Locks.act?] at hact
      split at hact
      · cases hact
      · cases hact
        simp only [Locks.reserve]
        split
        · exact hsweep
        · next hnone =>
          rw [Keyed.get?_insert, if_neg, hsweep]
          rintro rfl
          rw [hsweep] at hnone
          cases hnone
  | enter other =>
      simp only [Locks.act?, Locks.enter?] at hact
      split at hact
      · split at hact
        · cases hact
        · cases hact
          exact hl
      · cases hact
  | leave other =>
      cases hact
      exact hl
  | count =>
      cases hact
      exact hsweep

theorem mem_sweep_iff (h : locks.Serves stays) :
    id ∈ locks.sweep.byRecord.items.map RecordLock.recordId ↔
      ∃ task isIn, stays task = some ⟨id, isIn⟩ := by
  rw [List.mem_map]
  constructor
  · rintro ⟨l, hl, rfl⟩
    obtain ⟨hmem, hwanted⟩ := List.mem_filter.mp hl
    obtain ⟨t, ht, hlock⟩ := isWanted_eq_true.mp hwanted
    obtain ⟨⟨id, isIn⟩, m, hstay, hm, htm, -⟩ := h.of_mem ht
    obtain rfl := h.number_inj hmem (Keyed.mem_of_get? hm) (by omega)
    obtain rfl : l.recordId = id := Keyed.key_of_get? hm
    exact ⟨_, _, hstay⟩
  · rintro ⟨task, isIn, hstay⟩
    obtain ⟨l, hl, -⟩ := h.ticket hstay
    rw [← h.get?_sweep hstay] at hl
    exact ⟨l, Keyed.mem_of_get? hl, Keyed.key_of_get? hl⟩

theorem count_eq (h : locks.Serves stays) :
    locks.count.1 = {id | ∃ task isIn, stays task = some ⟨id, isIn⟩}.ncard := by
  have hnodup : (locks.sweep.byRecord.items.map RecordLock.recordId).Nodup := by
    refine List.pairwise_map.mpr (locks.sweep.byRecord.increasing.imp fun hlt he => ?_)
    rw [he] at hlt
    exact Std.lt_irrefl hlt
  have hset : {id | ∃ task isIn, stays task = some ⟨id, isIn⟩} =
      (locks.sweep.byRecord.items.map RecordLock.recordId).toFinset := by
    ext id
    simp only [List.coe_toFinset, Set.mem_ofPred_eq, h.mem_sweep_iff]
  rw [hset, Set.ncard_coe_finset, List.toFinset_card_of_nodup hnodup, List.length_map]
  rfl

end Serves

/-! ### All runs -/

/-- **Whatever steps are taken, in whatever order, the locks serve the tasks.** -/
theorem serves_after? {steps : List LockStep} {locks : Locks}
    (h : empty.after? steps = some locks) : locks.Serves (LockStep.staysAfter steps) := by
  induction steps using List.reverseRecOn generalizing locks with
  | nil =>
      cases h
      exact serves_empty
  | append_singleton steps step ih =>
      rw [after?_concat, Option.bind_eq_some_iff] at h
      obtain ⟨before, hbefore, hact⟩ := h
      rw [LockStep.staysAfter_concat]
      exact (ih hbefore).act? hact

/-- **At most one task works on a record, although locks come and go.**  After any steps of any
tasks, nobody is in where somebody else is.  There is a lock for every record where a task stays, it
is the one that the task has a ticket for, and no step that may come next replaces it.  The count is
the number of records where somebody stays.  And who waits may enter unless somebody is in. -/
theorem exclusive_lasts {steps : List LockStep} {locks : Locks}
    (h : empty.after? steps = some locks) :
    let stays := LockStep.staysAfter steps
    (∀ a b id, stays a = some ⟨id, true⟩ → stays b = some ⟨id, true⟩ → a = b) ∧
    (∀ task id isIn, stays task = some ⟨id, isIn⟩ →
      ∃ l, locks.byRecord.get? id = some l ∧ ⟨task, l.number, isIn⟩ ∈ locks.tickets ∧
        ∀ step next, locks.act? step = some next → next.byRecord.get? id = some l) ∧
    locks.count.1 = {id | ∃ task isIn, stays task = some ⟨id, isIn⟩}.ncard ∧
    ∀ task id, stays task = some ⟨id, false⟩ →
      ((locks.enter? task).isSome = true ↔ ∀ other, stays other ≠ some ⟨id, true⟩) := by
  intro stays
  have hserves := serves_after? h
  refine ⟨fun a b id => hserves.exclusive, fun task id isIn hstay => ?_, hserves.count_eq,
    fun task id => hserves.enter?_isSome_iff⟩
  obtain ⟨l, hl, hmem⟩ := hserves.ticket hstay
  exact ⟨l, hl, hmem, fun step next => hserves.get?_act? hstay hl⟩

/-- While a task waits for a record, another leaves it and a third comes: the third waits for the
same lock, and only one of them is in. -/
theorem exclusive_lasts_sample :
    let steps := [LockStep.reserve 0 .nil, .enter 0, .reserve 1 .nil, .count, .leave 0,
      .reserve 2 .nil, .enter 1]
    ∃ locks, empty.after? steps = some locks ∧ locks.byRecord.get? .nil = some ⟨.nil, 0⟩ ∧
      (∀ other, LockStep.staysAfter steps other = some ⟨.nil, true⟩ → other = 1) ∧
      (locks.enter? 2).isSome = false := by
  intro steps
  have hrun : empty.after? steps = some
      ⟨⟨[⟨.nil, 0⟩], List.pairwise_singleton _ _⟩, [⟨2, 0, false⟩, ⟨1, 0, true⟩], 1⟩ := by decide
  obtain ⟨halone, -, -, hfree⟩ := exclusive_lasts hrun
  have hin : LockStep.staysAfter steps 1 = some ⟨.nil, true⟩ := rfl
  refine ⟨_, hrun, rfl, fun other hother => halone other 1 .nil hother hin, ?_⟩
  rw [← Bool.not_eq_true, hfree 2 .nil rfl]
  exact fun hall => hall 1 hin

end Locks
end Docket
