import Docket.Proofs.Failure
import Mathlib.Data.List.Dedup
import Mathlib.Data.List.DropRight
import Mathlib.Data.List.Perm.Lattice

/-! # What the failure log says of its history

The log is asked to record incidents and now and then to forget all of them.  What it says then
depends on the incidents since it was last cleared, `FailureLog.sinceClear`, and on nothing else.

* `LoggedError.StandsFor` says what a line tells of incidents with one identifier: what the first of
  them said, how many they are, and which record was named last.
* `FailureLog.Keeps` is the invariant: each identifier has a line that stands for its incidents, and
  no line if there are none.  `FailureLog.Keeps.record` is the step over one incident.
* `FailureLog.after_tells` reads off it all that the log can be asked, after any calls. -/

namespace Docket

/-! ### Lines -/

/-- The record that was named last, if one was. -/
def namedLast? (incidents : List Incident) : Option Uuid :=
  (incidents.filterMap fun i => i.site.recordId).getLast?

theorem namedLast?_concat (incidents : List Incident) (i : Incident) :
    namedLast? (incidents ++ [i]) = (i.site.recordId <|> namedLast? incidents) := by
  unfold namedLast?
  rw [List.filterMap_append, List.getLast?_append]
  cases h : i.site.recordId <;> simp [h]

namespace LoggedError

variable {e : LoggedError} {incidents : List Incident}

/-- A line that was opened by an incident and still says what it said. -/
structure OpenedBy (e : LoggedError) (i : Incident) : Prop where
  techId : e.techId = i.techId
  workflowId : e.workflowId = i.site.workflowId
  statusId : e.statusId = i.site.statusId
  actionId : e.actionId = i.site.actionId
  kind : e.kind = i.kind
  summary : e.summary = i.cause
  firstSeen : e.firstSeen = i.now

/-- A line that stands for incidents, in the order in which they were reported. -/
structure StandsFor (e : LoggedError) (incidents : List Incident) : Prop where
  first : ∃ i, incidents.head? = some i ∧ e.OpenedBy i
  last : ∃ i, incidents.getLast? = some i ∧ e.lastSeen = i.now
  count : e.count = incidents.length
  recordId : e.recordId = namedLast? incidents

theorem standsFor_first (i : Incident) :
    (first i.now i.site i.kind i.cause).StandsFor [i] where
  first := ⟨i, rfl, rfl, rfl, rfl, rfl, rfl, rfl, rfl⟩
  last := ⟨i, rfl, rfl⟩
  count := rfl
  recordId := by
    rw [show [i] = [] ++ [i] from rfl, namedLast?_concat]
    cases h : i.site.recordId <;> simp [first, namedLast?, h]

theorem StandsFor.again (h : e.StandsFor incidents) (i : Incident) :
    (e.again i.now i.site.recordId).StandsFor (incidents ++ [i]) where
  first := by
    obtain ⟨j, hj, hopened⟩ := h.first
    refine ⟨j, ?_, { hopened with }⟩
    rw [List.head?_append, hj]
    rfl
  last := ⟨i, List.getLast?_concat, rfl⟩
  count := by
    rw [List.length_append, ← h.count]
    rfl
  recordId := by
    rw [namedLast?_concat, ← h.recordId]
    rfl

end LoggedError

namespace FailureLog

variable {log : FailureLog} {incidents : List Incident}

/-! ### One incident after the other -/

/-- The incidents with an identifier. -/
def about (id : String) (incidents : List Incident) : List Incident :=
  incidents.filter fun i => i.techId = id

theorem about_concat_self (incidents : List Incident) (i : Incident) :
    about i.techId (incidents ++ [i]) = about i.techId incidents ++ [i] := by
  unfold about
  rw [List.filter_append]
  simp

theorem about_concat_of_ne {id : String} {i : Incident} (h : i.techId ≠ id) :
    about id (incidents ++ [i]) = about id incidents := by
  unfold about
  rw [List.filter_append]
  simp [h]

theorem about_eq_nil_iff {id : String} :
    about id incidents = [] ↔ ∀ i ∈ incidents, i.techId ≠ id := by
  unfold about
  simp

/-- Each identifier has a line that stands for its incidents, or it has neither a line nor an
incident. -/
def Keeps (log : FailureLog) (incidents : List Incident) : Prop :=
  ∀ id, (log.get? id = none ∧ about id incidents = []) ∨
    ∃ e, log.get? id = some e ∧ e.StandsFor (about id incidents)

theorem keeps_empty : empty.Keeps [] := fun _ => Or.inl ⟨rfl, rfl⟩

theorem Keeps.lineAfter (h : log.Keeps incidents) (i : Incident) :
    (log.lineAfter i.now i.site i.kind i.cause).StandsFor (about i.techId incidents ++ [i]) := by
  unfold FailureLog.lineAfter
  rw [show techId i.site i.kind i.cause = i.techId from rfl]
  rcases h i.techId with ⟨hnone, hnil⟩ | ⟨e, he, hstands⟩
  · rw [hnone, hnil]
    exact LoggedError.standsFor_first i
  · rw [he]
    exact hstands.again i

theorem get?_next_record (log : FailureLog) (i : Incident) (id : String) :
    (log.next (.record i)).get? id =
      if i.techId = id then some (log.lineAfter i.now i.site i.kind i.cause) else log.get? id := by
  show (log.putFirst _).get? id = _
  rw [get?_putFirst, lineAfter_techId]
  rfl

/-- **A log that keeps its incidents keeps one more.** -/
theorem Keeps.record (h : log.Keeps incidents) (i : Incident) :
    (log.next (.record i)).Keeps (incidents ++ [i]) := by
  intro id
  rw [get?_next_record]
  by_cases hid : i.techId = id
  · subst hid
    rw [about_concat_self, if_pos rfl]
    exact Or.inr ⟨_, rfl, h.lineAfter i⟩
  · rw [about_concat_of_ne hid, if_neg hid]
    exact h id

namespace Keeps

variable (h : log.Keeps incidents)

include h

theorem get?_eq_none_iff (id : String) : log.get? id = none ↔ ∀ i ∈ incidents, i.techId ≠ id := by
  rw [← about_eq_nil_iff]
  rcases h id with ⟨hnone, hnil⟩ | ⟨e, he, hstands⟩
  · exact iff_of_true hnone hnil
  · obtain ⟨i, hi, _⟩ := hstands.first
    refine iff_of_false ?_ ?_
    · rw [he]
      exact Option.some_ne_none e
    · intro hnil
      rw [hnil] at hi
      cases hi

theorem standsFor {id : String} {e : LoggedError} (he : log.get? id = some e) :
    e.StandsFor (about id incidents) := by
  rcases h id with ⟨hnone, _⟩ | ⟨e', he', hstands⟩
  · rw [he] at hnone
    cases hnone
  · rw [he] at he'
    cases he'
    exact hstands

theorem techIds_perm :
    (log.lines.map LoggedError.techId).Perm (incidents.map Incident.techId).dedup := by
  refine (List.perm_ext_iff_of_nodup log.distinct (List.nodup_dedup _)).mpr fun id => ?_
  have hline : id ∈ log.lines.map LoggedError.techId ↔ ¬ log.get? id = none := by
    unfold get?
    simp
  rw [hline, h.get?_eq_none_iff id, List.mem_dedup, List.mem_map]
  simp

end Keeps

theorem count_lines (log : FailureLog) (e : LoggedError) :
    log.lines.count e = if log.get? e.techId = some e then 1 else 0 := by
  have hnodup : log.lines.Nodup := log.distinct.of_map
  split
  · next he => exact List.count_eq_one_of_mem hnodup (List.mem_of_find?_eq_some he)
  · next he => exact List.count_eq_zero.mpr fun hmem => he (get?_of_mem hmem)

/-! ### All calls -/

/-- The log after calls, made one after the other of a log without a line. -/
def after (calls : List Call) : FailureLog := calls.foldl next empty

/-- The incident that a call reports. -/
def Call.incident? : Call → Option Incident
  | .record i => some i
  | .clear => none

/-- The incidents that were reported after the log was last cleared, in order. -/
def sinceClear (calls : List Call) : List Incident :=
  (calls.rtakeWhile fun c => c ≠ .clear).filterMap Call.incident?

theorem after_concat_call (calls : List Call) (c : Call) :
    after (calls ++ [c]) = (after calls).next c := by
  unfold after
  rw [List.foldl_append]
  rfl

theorem sinceClear_concat_record (calls : List Call) (i : Incident) :
    sinceClear (calls ++ [.record i]) = sinceClear calls ++ [i] := by
  unfold sinceClear
  rw [List.rtakeWhile_concat, if_pos (by simp), List.filterMap_append]
  rfl

theorem sinceClear_concat_clear (calls : List Call) : sinceClear (calls ++ [.clear]) = [] := by
  unfold sinceClear
  rw [List.rtakeWhile_concat, if_neg (by simp)]
  rfl

theorem keeps_after (calls : List Call) : (after calls).Keeps (sinceClear calls) := by
  induction calls using List.reverseRecOn with
  | nil => exact keeps_empty
  | append_singleton calls c ih =>
      rw [after_concat_call]
      cases c with
      | record i =>
          rw [sinceClear_concat_record]
          exact ih.record i
      | clear =>
          rw [sinceClear_concat_clear]
          exact keeps_empty

/-- What a log tells of the incidents since it was last cleared, whatever it is asked. -/
structure Tells (log : FailureLog) (incidents : List Incident) : Prop where
  get?_eq_none_iff : ∀ id, log.get? id = none ↔ ∀ i ∈ incidents, i.techId ≠ id
  line : ∀ id e, log.get? id = some e → e.StandsFor (about id incidents)
  size_eq : log.size = (incidents.map Incident.techId).dedup.length
  lines_count : ∀ e, log.lines.count e = if log.get? e.techId = some e then 1 else 0
  receipt?_eq : ∀ i, log.receipt? (.record i) =
    some ⟨i.techId, (about i.techId (incidents ++ [i])).length⟩

/-- **The log says what was reported since it was last cleared.**  After any calls, an identifier
has a line exactly if an incident with this identifier was reported since.  The line counts these
incidents, says what the first of them said, and names the record that was named last.  There are as
many lines as identifiers, each is listed once, and an incident is answered with its identifier and
the count that it brings about. -/
theorem after_tells (calls : List Call) : (after calls).Tells (sinceClear calls) := by
  have hkeeps := keeps_after calls
  refine ⟨hkeeps.get?_eq_none_iff, fun id e he => hkeeps.standsFor he, ?_, count_lines _,
    fun i => ?_⟩
  · rw [← hkeeps.techIds_perm.length_eq, List.length_map]
    rfl
  · show some (Receipt.mk _ _) = _
    rw [lineAfter_techId, (hkeeps.lineAfter i).count, about_concat_self]
    rfl

-- What was reported before the log was cleared does not count, and the last report names no record.
example :
    let missing (record : Option Uuid) : Incident :=
      ⟨⟨0, 0, 0⟩, ⟨"request", some "draft", some "route", record⟩, .missingRole,
        "missing role (desk)"⟩
    let log := after
      [.record (missing none), .clear, .record (missing (some .nil)), .record (missing none)]
    log.lines.map (fun e => (e.count, e.recordId)) = [(2, some .nil)] := by
  decide +kernel

end FailureLog
end Docket
