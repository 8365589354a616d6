import Docket.Json.Decoder
import Docket.Proofs.Graph.Loaded
import Docket.Proofs.Json.Kept
import Mathlib.Data.List.Induction

/-! # Reading what was written, and what can be read

Two kinds of lemmas about decoders.  Going forward, `Decoder.Reads` says that the steps of a record
take a value from the fields of an object, and leave them there for the next step.  An object that
was made of a list of fields has them all (`Json.Fields.has_ofList`), so a record is read back step
by step.

Going back, `Decoder.Gives` says that whatever is read from a value whose integers are kept has a
property. -/

namespace Docket

namespace Keyed

variable {α κ : Type} [LT κ] [LE κ] [Std.IsLinearOrder κ] [Std.LawfulOrderLT κ] [DecidableLT κ]
  [DecidableEq κ] {key : α → κ}

theorem ofList_items (t : Keyed key) : (ofList t.items : Keyed key) = t := by
  refine ext_get? fun k => ?_
  rw [get?_ofList]
  cases h : t.items.reverse.find? fun a => key a = k with
  | none =>
      refine (List.find?_eq_none.mpr fun a ha => ?_).symm
      exact List.find?_eq_none.mp h a (List.mem_reverse.mpr ha)
  | some a =>
      have hk : key a = k := by simpa using List.find?_some h
      have hmem := List.mem_reverse.mp (List.mem_of_find?_eq_some h)
      rw [← hk, get?_of_mem hmem]

end Keyed

theorem mapM_map_eq_some {α β : Type} {encode : α → β} {decode : β → Option α} {l : List α}
    (h : ∀ a ∈ l, decode (encode a) = some a) : (l.map encode).mapM decode = some l := by
  induction l with
  | nil => rfl
  | cons a rest ih =>
      obtain ⟨ha, hrest⟩ := List.forall_mem_cons.mp h
      rw [List.map_cons, List.mapM_cons, ha, ih hrest]
      rfl

namespace Json

theorem table?_ofTable (t : Table Json) : (ofTable t).table? = some t :=
  congrArg some t.ofList_items

/-- The fields have these values. -/
def Fields.Has (fields : Fields) (l : List (String × Json)) : Prop :=
  ∀ f ∈ l, fields.get? f.1 = some f.2

theorem Fields.has_ofList {l : List (String × Json)} (h : (l.map Prod.fst).Nodup) :
    (Fields.ofList l).Has l := by
  induction l using List.reverseRecOn with
  | nil => exact fun f hf => absurd hf List.not_mem_nil
  | append_singleton l g ih =>
      intro f hf
      have hinsert : Fields.ofList (l ++ [g]) = insertField g.1 g.2 (Fields.ofList l) := by
        unfold Fields.ofList
        rw [List.foldl_append]
        rfl
      rw [List.map_append, List.nodup_append] at h
      obtain ⟨hnodup, -, hdisjoint⟩ := h
      rw [hinsert, get?_insertField]
      rcases List.mem_append.mp hf with hf | hf
      · have hne : g.1 ≠ f.1 := fun he =>
          hdisjoint f.1 (List.mem_map_of_mem hf) g.1 (by simp) he.symm
        rw [if_neg hne]
        exact ih hnodup f hf
      · rw [List.mem_singleton.mp hf, if_pos rfl]

theorem Fields.Has.append {fields : Fields} {l m : List (String × Json)}
    (h : fields.Has (l ++ m)) : fields.Has l ∧ fields.Has m :=
  List.forall_mem_append.mp h

end Json

namespace Decoder

variable {α β : Type} {name : String} {fields : Json.Fields} {j : Json} {d : Decoder α} {a : α}

/-! ### Forward -/

theorem text_str (s : String) : text (.str s) = some s := rfl

theorem flag_bool (b : Bool) : flag (.bool b) = some b := rfl

theorem any_eq (j : Json) : any j = some j := rfl

theorem list_map {encode : α → Json} {l : List α} (h : ∀ a ∈ l, d (encode a) = some a) :
    list d (.arr (l.map encode)) = some l := mapM_map_eq_some h

theorem list_texts (l : List String) : list text (.texts l) = some l :=
  list_map fun _ _ => rfl

theorem nameSet_texts (names : NameSet) : nameSet (.texts names.items) = some names := by
  unfold nameSet
  rw [list_texts, Option.map_some, Keyed.ofList_items]

theorem table_ofTable {encode : α → Json} {t : Table α}
    (h : ∀ e ∈ t.items, d (encode e.2) = some e.2) :
    table d (.ofTable (t.mapValues encode)) = some t := by
  have hread : ∀ e ∈ t.items, ((fun f : String × Json => (d f.2).map fun a => (f.1, a))
      ((fun e : String × α => (e.1, encode e.2)) e)) = some e := by
    intro e he
    simp only [h e he]
    rfl
  unfold table Json.ofTable Table.mapValues
  simp only
  rw [mapM_map_eq_some hread, Option.map_some, Keyed.ofList_items]

theorem optional_text? (o : Option String) : optional text (.text? o) = some o := by
  cases o with
  | none => rfl
  | some s => rfl

/-- The steps take a value from the fields of an object, and leave them there. -/
abbrev Reads (x : Fields α) (fields : Json.Fields) (a : α) : Prop :=
  x.run (.named fields) = some (a, .named fields)

theorem reads_pure (fields : Json.Fields) (a : α) : Reads (pure a) fields a := rfl

theorem Reads.bind {x : Fields α} {f : α → Fields β} {b : β} (hx : Reads x fields a)
    (hf : Reads (f a) fields b) : Reads (x >>= f) fields b := by
  unfold Reads at hx hf ⊢
  rw [StateT.run_bind, hx]
  exact hf

theorem field_named (hget : Json.Fields.get? fields name = some j) (hd : d j = some a) :
    Reads (field name d) fields a := by
  unfold Reads field
  simp only [StateT.run, Bind.bind, StateT.bind, next?, hget, Option.bind_some, hd]
  rfl

theorem fieldOr_named {default : α} (hget : Json.Fields.get? fields name = some j)
    (hd : d j = some a) : Reads (fieldOr name d default) fields a := by
  unfold Reads fieldOr
  simp only [StateT.run, Bind.bind, StateT.bind, next?, hget, Option.bind_some, hd]
  rfl

theorem fieldOrNone_named {o : Option α} (hget : Json.Fields.get? fields name = some j)
    (hd : optional d j = some o) : Reads (fieldOrNone name d) fields o :=
  fieldOr_named hget hd

theorem field?_named {o : Option α} (hget : Json.Fields.get? fields name = some j)
    (hd : optional d j = some o) : Reads (field? name d) fields o :=
  fieldOr_named hget hd

theorem readAll_of_reads {x : Fields α} (h : Reads x fields a) :
    (Row.named fields).readAll x = some a := by
  unfold Row.readAll
  rw [h]
  rfl

theorem record_object {x : Fields α} {l : List (String × Json)} (hl : (l.map Prod.fst).Nodup)
    (h : ∀ fields : Json.Fields, fields.Has l → Reads x fields a) :
    record x (Json.object l) = some a :=
  readAll_of_reads (h _ (Json.Fields.has_ofList hl))

/-- A record with a tag is read from an object that was made of a list with its fields, of which the
tag is the first. -/
theorem tagged_object {key : String} {kind : Decoder β} {x : β → Fields α} {b : β}
    {l : List (String × Json)} (hl : (((key, j) :: l).map Prod.fst).Nodup) (hkind : kind j = some b)
    (h : ∀ fields : Json.Fields, fields.Has l → Reads (x b) fields a) :
    tagged key kind x (Json.object ((key, j) :: l)) = some a := by
  obtain ⟨hget, hrest⟩ := List.forall_mem_cons.mp (Json.Fields.has_ofList hl)
  unfold tagged Json.object
  simp only [hget, hkind, Option.bind_eq_bind, Option.bind_some]
  exact readAll_of_reads (h _ hrest)

/-! ### Back -/

/-- What is read from a value whose integers are kept has a property. -/
def Gives (d : Decoder α) (P : α → Prop) : Prop := ∀ j a, j.Kept → d j = some a → P a

/-- The integers in what is left of a record are kept. -/
def Row.Kept : Row → Prop
  | .named fields => ∀ f ∈ fields, f.2.Kept
  | .listed items => ∀ j ∈ items, j.Kept

/-- What the steps take from a record whose integers are kept has a property. -/
def GivesFrom (x : Fields α) (P : α → Prop) : Prop :=
  ∀ row row' a, row.Kept → x.run row = some (a, row') → P a

variable {P : α → Prop} {Q : β → Prop} {row row' : Row}

theorem gives_true (d : Decoder α) : Gives d fun _ => True := fun _ _ _ _ => trivial

theorem mapM_gives {items : List Json} {l : List α} (h : ∀ j ∈ items, ∀ a, d j = some a → P a)
    (hl : items.mapM d = some l) : ∀ a ∈ l, P a := by
  induction items generalizing l with
  | nil =>
      cases hl
      exact fun a ha => absurd ha List.not_mem_nil
  | cons j rest ih =>
      obtain ⟨hj, hrest⟩ := List.forall_mem_cons.mp h
      rw [List.mapM_cons] at hl
      obtain ⟨a, ha, hl⟩ := Option.bind_eq_some_iff.mp hl
      obtain ⟨l', hl', hl⟩ := Option.bind_eq_some_iff.mp hl
      cases hl
      exact List.forall_mem_cons.mpr ⟨hj a ha, ih hrest hl'⟩

theorem list_gives (h : Gives d P) : Gives (list d) fun l => ∀ a ∈ l, P a := by
  intro j l hj hl
  cases hj with
  | arr hitems => exact mapM_gives (fun j hmem a => h j a (hitems j hmem)) hl
  | _ => cases hl

theorem next?_kept (hrow : row.Kept) {o : Option Json}
    (h : (next? name).run row = some (o, row')) : (∀ j, o = some j → j.Kept) ∧ row'.Kept := by
  cases row with
  | named fields =>
      cases h
      refine ⟨fun j hj => ?_, hrow⟩
      obtain ⟨f, hf, rfl⟩ := Option.map_eq_some_iff.mp hj
      exact hrow f (List.mem_of_find?_eq_some hf)
  | listed items =>
      cases items with
      | nil =>
          cases h
          exact ⟨nofun, hrow⟩
      | cons j rest =>
          cases h
          obtain ⟨hj, hrest⟩ := List.forall_mem_cons.mp hrow
          refine ⟨fun j' hj' => ?_, hrest⟩
          cases hj'
          exact hj

theorem pure_gives (h : P a) : GivesFrom (pure a : Fields α) P := by
  intro row row' a' _ hrun
  cases hrun
  exact h

theorem field_run (hrow : row.Kept) (h : (field name d).run row = some (a, row')) :
    (∃ j, j.Kept ∧ d j = some a) ∧ row'.Kept := by
  unfold field at h
  rw [StateT.run_bind] at h
  obtain ⟨⟨o, rest⟩, hnext, h⟩ := Option.bind_eq_some_iff.mp h
  obtain ⟨hkept, hrest⟩ := next?_kept hrow hnext
  cases o with
  | none => cases h
  | some j =>
      obtain ⟨a', ha', h⟩ := Option.bind_eq_some_iff.mp h
      cases h
      exact ⟨⟨j, hkept j rfl, ha'⟩, hrest⟩

theorem fieldOr_run {default : α} (hrow : row.Kept)
    (h : (fieldOr name d default).run row = some (a, row')) :
    (a = default ∨ ∃ j, j.Kept ∧ d j = some a) ∧ row'.Kept := by
  unfold fieldOr at h
  rw [StateT.run_bind] at h
  obtain ⟨⟨o, rest⟩, hnext, h⟩ := Option.bind_eq_some_iff.mp h
  obtain ⟨hkept, hrest⟩ := next?_kept hrow hnext
  cases o with
  | none =>
      cases h
      exact ⟨.inl rfl, hrest⟩
  | some j =>
      obtain ⟨a', ha', h⟩ := Option.bind_eq_some_iff.mp h
      cases h
      exact ⟨.inr ⟨j, hkept j rfl, ha'⟩, hrest⟩

theorem field_gives (h : Gives d P) {f : α → Fields β} (hf : ∀ a, P a → GivesFrom (f a) Q) :
    GivesFrom (field name d >>= f) Q := by
  intro row row'' b hrow hrun
  rw [StateT.run_bind] at hrun
  obtain ⟨⟨a, row'⟩, hfield, hrun⟩ := Option.bind_eq_some_iff.mp hrun
  obtain ⟨⟨j, hj, ha⟩, hrow'⟩ := field_run hrow hfield
  exact hf a (h j a hj ha) row' row'' b hrow' hrun

theorem fieldOr_gives (h : Gives d P) {default : α} (hdefault : P default) {f : α → Fields β}
    (hf : ∀ a, P a → GivesFrom (f a) Q) : GivesFrom (fieldOr name d default >>= f) Q := by
  intro row row'' b hrow hrun
  rw [StateT.run_bind] at hrun
  obtain ⟨⟨a, row'⟩, hfield, hrun⟩ := Option.bind_eq_some_iff.mp hrun
  obtain ⟨ha, hrow'⟩ := fieldOr_run hrow hfield
  refine hf a ?_ row' row'' b hrow' hrun
  rcases ha with rfl | ⟨j, hj, ha⟩
  · exact hdefault
  · exact h j a hj ha

theorem map_gives {x : Fields α} {f : α → β} (h : GivesFrom x fun a => Q (f a)) :
    GivesFrom (x >>= fun a => pure (f a)) Q := by
  intro row row'' b hrow hrun
  rw [StateT.run_bind] at hrun
  obtain ⟨⟨a, row'⟩, hx, hrun⟩ := Option.bind_eq_some_iff.mp hrun
  cases hrun
  exact h row row' a hrow hx

theorem readAll_gives {x : Fields α} (row : Row) (h : GivesFrom x P) (hrow : row.Kept)
    (hread : row.readAll x = some a) : P a := by
  unfold Row.readAll at hread
  obtain ⟨⟨a', row'⟩, hx, hread⟩ := Option.bind_eq_some_iff.mp hread
  simp only at hread
  split at hread
  · cases hread
    exact h row row' a hrow hx
  · cases hread

theorem record_gives {x : Fields α} (h : GivesFrom x P) : Gives (record x) P := by
  intro j a hj hread
  cases hj with
  | obj hfields => exact readAll_gives (.named _) h hfields hread
  | arr hitems => exact readAll_gives (.listed _) h hitems hread
  | _ => cases hread

theorem tagged_gives {key : String} {kind : Decoder β} {x : β → Fields α}
    (h : ∀ b, GivesFrom (x b) P) : Gives (tagged key kind x) P := by
  intro j a hj hread
  cases hj with
  | obj hfields =>
      obtain ⟨_, _, hread⟩ := Option.bind_eq_some_iff.mp hread
      obtain ⟨b, _, hread⟩ := Option.bind_eq_some_iff.mp hread
      exact readAll_gives (.named _) (h b) hfields hread
  | @arr items hitems =>
      cases items with
      | nil => cases hread
      | cons j rest =>
          obtain ⟨b, _, hread⟩ := Option.bind_eq_some_iff.mp hread
          exact readAll_gives (.listed _) (h b) (List.forall_mem_cons.mp hitems).2 hread
  | _ => cases hread

end Decoder
end Docket
