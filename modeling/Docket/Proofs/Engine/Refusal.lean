import Docket.Proofs.Engine.Operation

/-! # What a refused operation leaves

An operation that answers with a reason for the person who acts has written down at most that a
condition could not be evaluated: the record, the directory and the calls made of the notifier are
those from before (`Scene.operate_refused_untouched`).  An operation that opened a pass can only
fail with `unknownStatus`, which nobody is told, so a visible reason comes from the checks alone.

A form is checked as a whole: with one field in it that the edit does not allow, none is written. -/

namespace Docket

/-- The record, the directory and the calls of the notifier are those from before. -/
structure Reply.Untouched {α : Type} (r : Reply α) (record : Record) (world : World) : Prop where
  record_eq : r.record = record
  directory_eq : r.world.directory = world.directory
  sent_eq : r.world.sent = world.sent

namespace Scene

variable {s : Scene} {record : Record} {world : World} {op : Operation}

/-- The record is in a status where `id` names an edit that does not allow `field`. -/
def Locks (s : Scene) (record : Record) (id field : String) : Prop :=
  ∃ status item edit, s.graph.status? record.status = some status ∧
    status.item? id = some item ∧ item.action = .edit edit ∧ mayEdit edit field = false

theorem refuse_untouched {α : Type} {p : Pass} (e : EngineError)
    (h : (Pass.start record world).Logged p) : (refuse p e : Reply α).Untouched record world where
  record_eq := h.record
  directory_eq := h.directory
  sent_eq := h.sent

theorem finish_goOn_invisible {p : Pass} {e : EngineError}
    (h : (finish (s.goOn p)).answer = .error e) : e.isUserVisible = false := by
  rcases hg : s.goOn p with ⟨q, e' | ⟨⟩⟩
  · rw [hg] at h
    obtain ⟨-, rfl⟩ := goOn_eq_error hg
    cases h
    rfl
  · rw [hg] at h
    cases h

theorem Operated.untouched {r : Reply Outcome} {e : EngineError} (h : s.Operated record world op r)
    (he : r.answer = .error e) (hv : e.isUserVisible = true) : r.Untouched record world := by
  cases h with
  | refused hl _ => exact refuse_untouched _ hl
  | opened _ _ =>
      have hn := finish_goOn_invisible he
      rw [hv] at hn
      cases hn

/-- No pass is opened by a form with a field that the edit does not allow. -/
theorem Opened.not_locks {id field : String} {form : Table Json} {p : Pass}
    (h : s.Opened record world (.submit id form) p) (hf : field ∈ form.names) :
    ¬ s.Locks record id field := by
  rintro ⟨status, item, edit, hs, hi, ha, hlocked⟩
  cases h with
  | chosen hs' hi' ha' _ _ =>
      cases hs.symm.trans hs'
      cases hi.symm.trans hi'
      rw [ha] at ha'
      cases ha'
  | edited hs' hi' ha' _ _ hall =>
      cases hs.symm.trans hs'
      cases hi.symm.trans hi'
      cases Action.edit.inj (ha.symm.trans ha')
      rw [hall field hf] at hlocked
      cases hlocked

theorem submit_locked {id field : String} {form : Table Json} (hf : field ∈ form.names)
    (hlocked : s.Locks record id field) :
    (∃ e, (s.submit record world id form).answer = .error e) ∧
      (s.submit record world id form).Untouched record world := by
  have ho := s.submit_operated record world id form
  generalize s.submit record world id form = r at ho
  cases ho with
  | @refused p e hl _ => exact ⟨⟨e, rfl⟩, refuse_untouched e hl⟩
  | opened _ ho => exact absurd hlocked (ho.not_locks hf)

/-- **A refused operation has no effect.**  When the person who acts is told why an operation
failed, the record is as it was, nobody's roles changed and nothing was sent.  In particular a form
with a field that the edit does not allow writes none of its fields. -/
theorem operate_refused_untouched (s : Scene) (record : Record) (world : World) :
    (∀ op e, (s.operate op record world).answer = .error e → e.isUserVisible = true →
      (s.operate op record world).Untouched record world) ∧
    ∀ id form field, field ∈ form.names → s.Locks record id field →
      (∃ e, (s.operate (.submit id form) record world).answer = .error e) ∧
        (s.operate (.submit id form) record world).Untouched record world := by
  refine ⟨fun op e he hv => ?_, fun id form field hf hlocked => ?_⟩
  · exact (s.operate_operated op record world).untouched he hv
  · exact submit_locked hf hlocked

/-- A stranger asks for advice in the place of the submitter, and a form for the note of the request
comes with a field that is not on its list. -/
theorem operate_refused_untouched_sample :
    ((Sample.scene "bob").operate (.submit "ask" ∅) Sample.record Sample.world).Untouched
      Sample.record Sample.world ∧
    ((Sample.scene "ada").operate (.submit "fill" (.ofList [("note", .null), ("sum", .null)]))
      Sample.record Sample.world).Untouched Sample.record Sample.world := by
  refine ⟨((Sample.scene "bob").operate_refused_untouched Sample.record Sample.world).1
    (.submit "ask" ∅) (.notAuthorised "ask") (by decide +kernel) rfl, ?_⟩
  refine (((Sample.scene "ada").operate_refused_untouched Sample.record Sample.world).2
    "fill" (.ofList [("note", .null), ("sum", .null)]) "sum" (by decide +kernel) ?_).2
  exact ⟨⟨"draft", "Draft", [Sample.ask, Sample.fill], false⟩, Sample.fill, _,
    by decide +kernel, by decide +kernel, rfl, by decide +kernel⟩

end Scene
end Docket
