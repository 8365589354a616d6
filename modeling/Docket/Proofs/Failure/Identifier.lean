import Docket.Proofs.Failure.History

/-! # Which failures share an identifier

An identifier puts the parts of a site together with hyphens, and the parts are any texts.  So for
one cause it tells the kind of a failure and the joined parts, `FailureSite.text`, and no more.

Two sites with the same joined parts are the same but for the record, unless one of two things
happens.  A part that is named like a missing one stands for it (`FailureSite.Masks`), or the parts
run into each other because hyphens stand in different parts of the two sites
(`FailureSite.Blurs`). -/

namespace Docket

/-! ### Texts that are joined with a hyphen -/

section Hyphen

variable {s s' t t' : List Char}

/-- Where two joined texts agree, they were cut at the same hyphen, or the text between the two cuts
belongs to the one on the left and to the other on the right. -/
theorem split_of_append_hyphen_eq (h : s ++ '-' :: t = s' ++ '-' :: t') :
    (s = s' ∧ t = t') ∨ (∃ between, s' = s ++ '-' :: between ∧ t = between ++ '-' :: t') ∨
      ∃ between, s = s' ++ '-' :: between ∧ t' = between ++ '-' :: t := by
  rcases List.append_eq_append_iff.mp h with ⟨c, hs, ht⟩ | ⟨c, hs, ht⟩
  · cases c with
    | nil => exact Or.inl ⟨by rw [hs, List.append_nil], (List.cons.inj ht).2⟩
    | cons x between =>
        obtain ⟨rfl, hbetween⟩ := List.cons.inj ht
        exact Or.inr (Or.inl ⟨between, hs, hbetween⟩)
  · cases c with
    | nil => exact Or.inl ⟨by rw [hs, List.append_nil], (List.cons.inj ht).2.symm⟩
    | cons x between =>
        obtain ⟨rfl, hbetween⟩ := List.cons.inj ht
        exact Or.inr (Or.inr ⟨between, hs, hbetween⟩)

/-- A second hyphen in a joined text belongs to one of the two that were joined. -/
theorem hyphen_mem_of_append_hyphen_eq (h : s ++ '-' :: t = s' ++ '-' :: t') (ht : '-' ∈ t') :
    '-' ∈ s ∨ '-' ∈ t := by
  rcases split_of_append_hyphen_eq h with ⟨_, rfl⟩ | ⟨between, _, rfl⟩ | ⟨between, rfl, _⟩
  · exact Or.inr ht
  · exact Or.inr (List.mem_append_right between List.mem_cons_self)
  · exact Or.inl (List.mem_append_right s' List.mem_cons_self)

end Hyphen

/-! ### Sites -/

namespace FailureSite

/-- The parts of a site that an identifier keeps. -/
inductive Part where
  | workflow
  | status
  | action
  deriving DecidableEq, Repr

variable {site site' : FailureSite}

def part (site : FailureSite) : Part → String
  | .workflow => site.workflowId
  | .status => site.statusId.getD "_"
  | .action => site.actionId.getD "_"

/-- The parts of a site, joined. -/
def text (site : FailureSite) : String :=
  site.part .workflow ++ "-" ++ site.part .status ++ "-" ++ site.part .action

/-- The same workflow, status and action, whatever the record. -/
structure Alike (site site' : FailureSite) : Prop where
  workflowId : site.workflowId = site'.workflowId
  statusId : site.statusId = site'.statusId
  actionId : site.actionId = site'.actionId

/-- A part is missing in one site, and in the other it is named like a missing one. -/
def Masks (site site' : FailureSite) : Prop :=
  let masked (a b : Option String) : Prop := (a = none ∧ b = some "_") ∨ (a = some "_" ∧ b = none)
  masked site.statusId site'.statusId ∨ masked site.actionId site'.actionId

/-- Hyphens stand in different parts of two sites. -/
def Blurs (site site' : FailureSite) : Prop :=
  ∃ a b, a ≠ b ∧ '-' ∈ (site.part a).toList ∧ '-' ∈ (site'.part b).toList

theorem Blurs.symm (h : site.Blurs site') : site'.Blurs site := by
  obtain ⟨a, b, hne, ha, hb⟩ := h
  exact ⟨b, a, hne.symm, hb, ha⟩

theorem text_toList (site : FailureSite) : site.text.toList =
    (site.part .workflow).toList ++
      '-' :: ((site.part .status).toList ++ '-' :: (site.part .action).toList) := by
  unfold text
  simp [String.toList_append]

/-- A site whose workflow ends before that of the other, with the same joined parts, has a hyphen
further right. -/
theorem blurs_of_workflow {between : List Char}
    (hw : (site'.part .workflow).toList = (site.part .workflow).toList ++ '-' :: between)
    (hrest : (site.part .status).toList ++ '-' :: (site.part .action).toList =
      between ++ '-' :: ((site'.part .status).toList ++ '-' :: (site'.part .action).toList)) :
    site.Blurs site' := by
  have hhyphen : '-' ∈ (site'.part .workflow).toList := by
    rw [hw]
    exact List.mem_append_right _ List.mem_cons_self
  rcases hyphen_mem_of_append_hyphen_eq hrest
    (List.mem_append_right _ List.mem_cons_self) with hs | ha
  · exact ⟨.status, .workflow, by decide, hs, hhyphen⟩
  · exact ⟨.action, .workflow, by decide, ha, hhyphen⟩

/-- **The joined parts tell the parts, unless hyphens stand in different ones.** -/
theorem part_eq_or_blurs (h : site.text = site'.text) :
    (∀ a, site.part a = site'.part a) ∨ site.Blurs site' := by
  have hl := congrArg String.toList h
  rw [text_toList, text_toList] at hl
  rcases split_of_append_hyphen_eq hl with ⟨hw, hrest⟩ | ⟨between, hw, hrest⟩ | ⟨between, hw, hrest⟩
  · rcases split_of_append_hyphen_eq hrest with ⟨hs, ha⟩ | ⟨between, hs, ha⟩ | ⟨between, hs, ha⟩
    · refine Or.inl fun a => String.toList_injective ?_
      cases a with
      | workflow => exact hw
      | status => exact hs
      | action => exact ha
    · refine Or.inr ⟨.action, .status, by decide, ?_, ?_⟩
      · rw [ha]
        exact List.mem_append_right _ List.mem_cons_self
      · rw [hs]
        exact List.mem_append_right _ List.mem_cons_self
    · refine Or.inr ⟨.status, .action, by decide, ?_, ?_⟩
      · rw [hs]
        exact List.mem_append_right _ List.mem_cons_self
      · rw [ha]
        exact List.mem_append_right _ List.mem_cons_self
  · exact Or.inr (blurs_of_workflow hw hrest)
  · exact Or.inr (blurs_of_workflow hw hrest).symm

/-- The texts of two names that may be missing tell them, unless one is named like a missing one. -/
theorem eq_or_masked {a b : Option String} (h : a.getD "_" = b.getD "_") :
    a = b ∨ (a = none ∧ b = some "_") ∨ (a = some "_" ∧ b = none) := by
  cases a with
  | none =>
      cases b with
      | none => exact Or.inl rfl
      | some t => exact Or.inr (Or.inl ⟨rfl, congrArg some h.symm⟩)
  | some s =>
      cases b with
      | none => exact Or.inr (Or.inr ⟨congrArg some h, rfl⟩)
      | some t => exact Or.inl (congrArg some h)

/-- Sites with the same parts are alike, unless one masks a missing part. -/
theorem alike_or_masks (h : ∀ a, site.part a = site'.part a) :
    site.Alike site' ∨ site.Masks site' := by
  rcases eq_or_masked (h .status) with hs | hs
  · rcases eq_or_masked (h .action) with ha | ha
    · exact Or.inl ⟨h .workflow, hs, ha⟩
    · exact Or.inr (Or.inr ha)
  · exact Or.inr (Or.inl hs)

theorem Alike.text_eq (h : site.Alike site') : site.text = site'.text := by
  unfold text part
  rw [h.workflowId, h.statusId, h.actionId]

end FailureSite

/-! ### Identifiers -/

variable {site site' : FailureSite} {kind kind' : FailureKind}

theorem techId_eq_text (site : FailureSite) (kind : FailureKind) (cause : String) :
    techId site kind cause = site.text ++ "-" ++ kind.name ++ "-" ++ Digest.short cause := rfl

theorem techId_eq_iff (cause : String) :
    techId site kind cause = techId site' kind' cause ↔ kind = kind' ∧ site.text = site'.text := by
  constructor
  · intro h
    obtain rfl := kind_of_techId_eq h
    refine ⟨rfl, String.toList_injective ?_⟩
    rw [techId_eq_text, techId_eq_text] at h
    have hl := congrArg String.toList h
    simpa [String.toList_append] using hl
  · rintro ⟨rfl, htext⟩
    rw [techId_eq_text, techId_eq_text, htext]

/-- **Which failures share a line of the log.**  Two failures with the same cause have the same
identifier exactly if they are of one kind and the parts of their sites, joined with hyphens, read
the same.  Such sites are alike, unless a part that is named `_` stands for a missing one or hyphens
stand in different parts of the two; and sites that are alike do share their identifiers. -/
theorem techId_tells (site site' : FailureSite) (kind kind' : FailureKind) (cause : String) :
    (techId site kind cause = techId site' kind' cause ↔ kind = kind' ∧ site.text = site'.text) ∧
      (site.text = site'.text → site.Alike site' ∨ site.Masks site' ∨ site.Blurs site') ∧
      (site.Alike site' → site.text = site'.text) := by
  refine ⟨techId_eq_iff cause, fun htext => ?_, FailureSite.Alike.text_eq⟩
  rcases FailureSite.part_eq_or_blurs htext with hparts | hblurs
  · exact (FailureSite.alike_or_masks hparts).imp_right Or.inl
  · exact Or.inr (Or.inr hblurs)

namespace Sample

/-- The closing of a review that has come in. -/
def closing : FailureSite := ⟨"request", some "in", some "review-close", none⟩

/-- The closing of a request that is in review. -/
def reviewing : FailureSite := ⟨"request", some "in-review", some "close", none⟩

end Sample

/-- **Two different failures may share a line.**  A role is missing for the item that closes a
review in one status, and for the item that closes the request in another, and the log has one
failure that was seen twice. -/
theorem techId_merges :
    ¬ (∀ site site' : FailureSite, ∀ kind kind' : FailureKind, ∀ cause : String,
        techId site kind cause = techId site' kind' cause → site.Alike site' ∧ kind = kind') ∧
      (FailureLog.after [
          .record ⟨⟨0, 0, 0⟩, Sample.closing, .missingRole, "missing role (desk)"⟩,
          .record ⟨⟨0, 0, 0⟩, Sample.reviewing, .missingRole, "missing role (desk)"⟩]).lines.map
        (fun e => (e.statusId, e.actionId, e.count)) = [(some "in", some "review-close", 2)] := by
  refine ⟨fun h => ?_, by decide +kernel⟩
  have hsame : techId Sample.closing .missingRole "missing role (desk)" =
      techId Sample.reviewing .missingRole "missing role (desk)" :=
    (techId_eq_iff _).mpr ⟨rfl, by decide⟩
  have hstatus := (h _ _ _ _ _ hsame).1.statusId
  revert hstatus
  decide

end Docket
