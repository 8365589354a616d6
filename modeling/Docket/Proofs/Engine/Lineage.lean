import Docket.Proofs.Engine.Operation

/-! # What a record stays

Whatever is done to a record, and however it ends, the record keeps its identifier and its workflow,
and its history is only continued.  `Record.Continues` says so of two versions of a record, and
`Scene.operate_continues` of every operation. -/

namespace Docket

/-- A later version of a record: the same record of the same workflow, with a history that begins
alike. -/
structure Record.Continues (later r : Record) : Prop where
  id_eq : later.id = r.id
  workflowId_eq : later.workflowId = r.workflowId
  history : r.history <+: later.history

namespace Record.Continues

variable {r q later : Record}

theorem refl (r : Record) : r.Continues r := ⟨rfl, rfl, List.prefix_rfl⟩

theorem trans (h : later.Continues q) (h' : q.Continues r) : later.Continues r :=
  ⟨h.id_eq.trans h'.id_eq, h.workflowId_eq.trans h'.workflowId_eq, h'.history.trans h.history⟩

end Record.Continues

namespace Scene

theorem lasting_continues (s : Scene) (record : Record) :
    s.Lasting fun p => p.record.Continues record where
  sameCourse hb hp := by
    rw [hb.record]
    exact ⟨hp.id_eq, hp.workflowId_eq, hp.history⟩
  ending _ hp := hp
  arrive _ _ _ _ hp := ⟨hp.id_eq, hp.workflowId_eq, hp.history.trans (List.prefix_append ..)⟩
  filledIn _ hp := ⟨hp.id_eq, hp.workflowId_eq, hp.history⟩
  noteEdit _ hp := ⟨hp.id_eq, hp.workflowId_eq, hp.history.trans (List.prefix_append ..)⟩

/-- **An operation continues its record, also where it is refused.** -/
theorem operate_continues (s : Scene) (op : Operation) (record : Record) (world : World) :
    (s.operate op record world).record.Continues record :=
  operate_lasts (fun r => r.Continues record) (s.lasting_continues record) op world (.refl record)

end Scene
end Docket
