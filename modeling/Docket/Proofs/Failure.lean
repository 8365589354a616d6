import Docket.Failure
import Mathlib.Data.Nat.Notation
import Mathlib.Data.List.Nodup

/-! # What the failure log counts

A line of the log counts the failures with its identifier, so `FailureLog.occurrences` says how
often a failure was recorded.  The kind of a failure can be read off its identifier: the digest at
the end has a fixed length, and no name of a kind has a hyphen in it (`kind_of_techId_eq`).  So
failures of different kinds never share a line, and `FailureLog.Gains` can say which failures of one
kind a log has counted beyond those of another, whatever else has been recorded between the two.
`FailureLog.total` counts the failures of all kinds, and `FailureLog.Includes` says that no line of a
log got lost and none counts less.  `FailureLog.AlikeBut` says of two logs that they differ in the
failures of one kind at most. -/

namespace Docket

/-! ### Identifiers -/

theorem Digest.sha256_length (bytes : List UInt8) : (sha256 bytes).length = 32 := by
  unfold sha256
  simp [State.words, bigEndian]

theorem Digest.short_length (text : String) : (short text).toList.length = 16 := by
  unfold short
  rw [String.toList_ofList, List.length_flatMap]
  simp [hexByte, sha256_length]

theorem FailureKind.hyphen_notMem_name (kind : FailureKind) : '-' ∉ kind.name.toList := by
  cases kind <;> decide

theorem FailureKind.mem_all (kind : FailureKind) : kind ∈ all := by
  cases kind <;> decide

theorem FailureKind.eq_of_name_eq {kind kind' : FailureKind} (h : kind.name = kind'.name) :
    kind = kind' := by
  have hall : ∀ a ∈ all, ∀ b ∈ all, a.name = b.name → a = b := by decide
  exact hall kind kind.mem_all kind' kind'.mem_all h

/-- The piece of a text after its last hyphen. -/
theorem eq_of_append_hyphen_eq {s s' t t' : List Char} (h : s ++ '-' :: t = s' ++ '-' :: t')
    (ht : '-' ∉ t) (ht' : '-' ∉ t') : t = t' := by
  -- reversed, both pieces are what stands before the first hyphen
  have last : ∀ {s t : List Char}, '-' ∉ t → (s ++ '-' :: t).reverse.takeWhile (· ≠ '-') = t.reverse := by
    intro s t ht
    have hall : ∀ c ∈ t.reverse, decide (c ≠ '-') = true := by
      intro c hc
      rw [decide_eq_true_iff]
      rintro rfl
      exact ht (List.mem_reverse.mp hc)
    rw [List.reverse_append, List.reverse_cons, List.append_assoc, List.takeWhile_append_of_pos hall]
    simp
  have hrev : t.reverse = t'.reverse := by rw [← last ht, ← last ht', h]
  exact List.reverse_injective hrev

variable {site site' : FailureSite} {kind kind' : FailureKind} {cause cause' : String}

theorem techId_toList (site : FailureSite) (kind : FailureKind) (cause : String) :
    (techId site kind cause).toList =
      ((site.workflowId ++ "-" ++ site.statusId.getD "_" ++ "-" ++ site.actionId.getD "_").toList ++
        '-' :: kind.name.toList) ++ '-' :: (Digest.short cause).toList := by
  unfold techId
  simp [String.toList_append]

/-- **The identifier of a failure tells its kind.** -/
theorem kind_of_techId_eq (h : techId site kind cause = techId site' kind' cause') : kind = kind' := by
  have hl := congrArg String.toList h
  rw [techId_toList, techId_toList] at hl
  have hlen : ('-' :: (Digest.short cause).toList).length =
      ('-' :: (Digest.short cause').toList).length := by
    rw [List.length_cons, List.length_cons, Digest.short_length, Digest.short_length]
  have hfront := (List.append_inj' hl hlen).1
  have hname := eq_of_append_hyphen_eq hfront kind.hyphen_notMem_name kind'.hyphen_notMem_name
  exact FailureKind.eq_of_name_eq (String.toList_injective hname)

/-! ### Occurrences -/

namespace FailureLog

variable {log log' log'' : FailureLog} {now : Instant}

/-- How often a failure with an identifier was recorded. -/
def occurrences (log : FailureLog) (id : String) : ℕ := ((log.get? id).map LoggedError.count).getD 0

theorem lineAfter_techId (log : FailureLog) (now : Instant) (site : FailureSite) (kind : FailureKind)
    (cause : String) : (log.lineAfter now site kind cause).techId = techId site kind cause := by
  unfold lineAfter
  split
  · next e he =>
    show e.techId = techId site kind cause
    simpa using List.find?_some he
  · rfl

theorem lineAfter_count (log : FailureLog) (now : Instant) (site : FailureSite) (kind : FailureKind)
    (cause : String) : (log.lineAfter now site kind cause).count =
      log.occurrences (techId site kind cause) + 1 := by
  unfold lineAfter occurrences
  cases log.get? (techId site kind cause) with
  | none => rfl
  | some e => rfl

theorem occurrences_record (log : FailureLog) (now : Instant) (site : FailureSite)
    (kind : FailureKind) (cause id : String) : (log.record now site kind cause).occurrences id =
      log.occurrences id + if techId site kind cause = id then 1 else 0 := by
  unfold record
  by_cases h : techId site kind cause = id
  · subst h
    rw [if_pos rfl, ← lineAfter_count log now]
    unfold occurrences
    rw [get?_putFirst, lineAfter_techId, if_pos rfl]
    rfl
  · rw [if_neg h, Nat.add_zero]
    unfold occurrences
    rw [get?_putFirst, lineAfter_techId, if_neg h]

/-- Of the failures of a kind, `log'` has counted those with the identifiers `ids` beyond those of
`log`, and no others. -/
def Gains (kind : FailureKind) (ids : List String) (log log' : FailureLog) : Prop :=
  ∀ site cause, log'.occurrences (techId site kind cause) =
    log.occurrences (techId site kind cause) + ids.count (techId site kind cause)

theorem Gains.refl (kind : FailureKind) (log : FailureLog) : Gains kind [] log log :=
  fun _ _ => rfl

theorem Gains.trans {ids ids' : List String} (h : Gains kind ids log log')
    (h' : Gains kind ids' log' log'') : Gains kind (ids ++ ids') log log'' := by
  intro site cause
  rw [h', h, List.count_append, Nat.add_assoc]

theorem gains_record (log : FailureLog) (now : Instant) (site : FailureSite) (kind : FailureKind)
    (cause : String) :
    Gains kind [techId site kind cause] log (log.record now site kind cause) := by
  intro site' cause'
  rw [occurrences_record, List.count_singleton]
  simp only [beq_iff_eq]

theorem gains_record_of_ne (h : kind' ≠ kind) (log : FailureLog) (now : Instant) (site : FailureSite)
    (cause : String) : Gains kind [] log (log.record now site kind' cause) := by
  intro site' cause'
  rw [occurrences_record, if_neg fun he => h (kind_of_techId_eq he)]
  rfl

/-! ### All failures -/

/-- What some lines count together. -/
def sumOf : List LoggedError → ℕ
  | [] => 0
  | e :: rest => e.count + sumOf rest

def total (log : FailureLog) : ℕ := sumOf log.lines

theorem get?_of_mem {e : LoggedError} (he : e ∈ log.lines) : log.get? e.techId = some e := by
  unfold get?
  cases hfound : log.lines.find? fun f => f.techId = e.techId with
  | none => simpa using List.find?_eq_none.mp hfound e he
  | some f =>
      have hid : f.techId = e.techId := by simpa using List.find?_some hfound
      have hf : f ∈ log.lines := List.mem_of_find?_eq_some hfound
      rw [List.inj_on_of_nodup_map log.distinct hf he hid]

/-- The line of an identifier, if there is one, and the other lines make up the total. -/
theorem total_eq (log : FailureLog) (id : String) :
    log.total =
      log.occurrences id + sumOf (log.lines.filter fun e => e.techId ≠ id) := by
  obtain ⟨lines, hdistinct⟩ := log
  unfold total occurrences get?
  simp only
  induction lines with
  | nil => rfl
  | cons e rest ih =>
      rw [List.map_cons, List.nodup_cons] at hdistinct
      by_cases he : e.techId = id
      · have hrest : (rest.filter fun f => f.techId ≠ id) = rest := by
          refine List.filter_eq_self.mpr fun f hf => decide_eq_true ?_
          rintro rfl
          exact hdistinct.1 (he ▸ List.mem_map_of_mem hf)
        rw [List.find?_cons_of_pos (by simpa using he), List.filter_cons_of_neg (by simpa using he),
          hrest]
        rfl
      · have hrest := ih hdistinct.2
        rw [List.find?_cons_of_neg (by simpa using he), List.filter_cons_of_pos (by simpa using he)]
        simp only [sumOf]
        omega

theorem total_record (log : FailureLog) (now : Instant) (site : FailureSite) (kind : FailureKind)
    (cause : String) : (log.record now site kind cause).total = log.total + 1 := by
  have hlines : (log.record now site kind cause).lines = log.lineAfter now site kind cause ::
      log.lines.filter fun e => e.techId ≠ techId site kind cause := by
    rw [← lineAfter_techId log now site kind cause]
    rfl
  have htotal := log.total_eq (techId site kind cause)
  have hcount := log.lineAfter_count now site kind cause
  show sumOf (log.record now site kind cause).lines = _
  rw [hlines, sumOf]
  omega

/-- Every line of `log` is still in `log'`, and counts at least as much. -/
def Includes (log log' : FailureLog) : Prop :=
  ∀ e ∈ log.lines, ∃ e' ∈ log'.lines, e'.techId = e.techId ∧ e.count ≤ e'.count

theorem Includes.refl (log : FailureLog) : Includes log log :=
  fun e he => ⟨e, he, rfl, Nat.le_refl _⟩

theorem Includes.trans (h : Includes log log') (h' : Includes log' log'') : Includes log log'' := by
  intro e he
  obtain ⟨e', he', hid, hcount⟩ := h e he
  obtain ⟨e'', he'', hid', hcount'⟩ := h' e' he'
  exact ⟨e'', he'', hid'.trans hid, Nat.le_trans hcount hcount'⟩

theorem includes_record (log : FailureLog) (now : Instant) (site : FailureSite) (kind : FailureKind)
    (cause : String) : Includes log (log.record now site kind cause) := by
  intro e he
  unfold record putFirst
  by_cases hid : e.techId = techId site kind cause
  · refine ⟨_, List.mem_cons_self, (log.lineAfter_techId now site kind cause).trans hid.symm, ?_⟩
    rw [lineAfter_count, ← hid]
    unfold occurrences
    rw [get?_of_mem he]
    exact Nat.le_succ e.count
  · refine ⟨e, List.mem_cons_of_mem _ (List.mem_filter.mpr ⟨he, ?_⟩), rfl, Nat.le_refl _⟩
    rw [lineAfter_techId]
    exact decide_eq_true hid

/-! ### Logs that differ in one kind of failure -/

/-- Two logs with the same lines in the same order, for whoever is not shown the failures of a
kind. -/
def AlikeBut (kind : FailureKind) (log log' : FailureLog) : Prop :=
  ∀ shown : String → Bool, (∀ site cause, shown (techId site kind cause) = false) →
    (log'.lines.filter fun e => shown e.techId) = log.lines.filter fun e => shown e.techId

theorem filter_record_of_hidden {shown : String → Bool} (h : shown (techId site kind cause) = false)
    (log : FailureLog) (now : Instant) :
    ((log.record now site kind cause).lines.filter fun e => shown e.techId) =
      log.lines.filter fun e => shown e.techId := by
  unfold record putFirst
  rw [List.filter_cons, lineAfter_techId, h, List.filter_filter]
  refine List.filter_congr fun e _ => ?_
  by_cases he : e.techId = techId site kind cause
  · rw [he, h, Bool.false_and]
  · simp [he]

namespace AlikeBut

theorem refl (kind : FailureKind) (log : FailureLog) : AlikeBut kind log log := fun _ _ => rfl

theorem symm (h : AlikeBut kind log log') : AlikeBut kind log' log :=
  fun shown hhidden => (h shown hhidden).symm

theorem trans (h : AlikeBut kind log log') (h' : AlikeBut kind log' log'') :
    AlikeBut kind log log'' :=
  fun shown hhidden => (h' shown hhidden).trans (h shown hhidden)

theorem record_self (log : FailureLog) (now : Instant) (site : FailureSite) (kind : FailureKind)
    (cause : String) : AlikeBut kind log (log.record now site kind cause) :=
  fun _ hhidden => filter_record_of_hidden (hhidden site cause) log now

theorem get?_eq (h : AlikeBut kind log log') {id : String}
    (hid : ∀ site cause, techId site kind cause ≠ id) : log'.get? id = log.get? id := by
  have hfirst : ∀ log : FailureLog, log.get? id = (log.lines.filter fun e => e.techId = id).head? :=
    fun log => (List.head?_filter ..).symm
  have hshown := h (fun other => decide (other = id)) fun site cause => decide_eq_false (hid site cause)
  rw [hfirst, hfirst, hshown]

theorem record (h : AlikeBut kind log log') (now : Instant) (site : FailureSite)
    (kind' : FailureKind) (cause : String) :
    AlikeBut kind (log.record now site kind' cause) (log'.record now site kind' cause) := by
  intro shown hhidden
  cases hid : shown (techId site kind' cause) with
  | false => rw [filter_record_of_hidden hid, filter_record_of_hidden hid, h shown hhidden]
  | true =>
      -- a failure that is shown is of another kind, and its line is the same in both logs
      have hne : ∀ site' cause', techId site' kind cause' ≠ techId site kind' cause := by
        intro site' cause' he
        rw [← he, hhidden] at hid
        cases hid
      have hline : log'.lineAfter now site kind' cause = log.lineAfter now site kind' cause := by
        unfold lineAfter
        rw [h.get?_eq hne]
      have hrest : ∀ log : FailureLog, ((log.record now site kind' cause).lines.filter
          fun e => shown e.techId) = log.lineAfter now site kind' cause ::
            (log.lines.filter fun e => shown e.techId).filter
              fun e => e.techId ≠ techId site kind' cause := by
        intro log
        unfold FailureLog.record putFirst
        rw [List.filter_cons, lineAfter_techId, hid, if_pos rfl, List.filter_filter,
          List.filter_filter]
        simp only [Bool.and_comm]
      rw [hrest, hrest, hline, h shown hhidden]

end AlikeBut
end FailureLog
end Docket
