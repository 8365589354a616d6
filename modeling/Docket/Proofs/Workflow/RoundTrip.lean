import Docket.Proofs.Json.Decoding

/-! # A workflow is read back

Writing a workflow as a value gives every field, and reading the value gives the workflow back, part
by part.  For every part `X` of a workflow, `X.decode_toJson` says so, and for the fields of an
action `X.reads`.

One thing could be lost: a timeout beyond 64 bits would be written as a floating-point number.
`Workflow.Storable` says that there is none, and no text gives one (`Workflow.storable_of_decode`).

`Graph.load_stored` concludes that a graph that was loaded survives being stored. -/

namespace Docket

open Decoder

/-! ### What can be stored -/

/-- The seconds of a timeout have 64 bits, with a sign. -/
def JumpMode.Storable : JumpMode → Prop
  | .timeout seconds => Number.minInt ≤ seconds ∧ seconds ≤ Number.maxInt64
  | _ => True

/-- The timeout of an action has 64 bits, if it has one. -/
def Action.Storable : Action → Prop
  | .jump j => j.mode.Storable
  | _ => True

/-- The timeouts of all items have 64 bits. -/
def Workflow.Storable (w : Workflow) : Prop := ∀ item ∈ w.items, item.action.Storable

/-! ### Names of cases -/

theorem Decoder.int64_int {i : Int} (h : Number.minInt ≤ i ∧ i ≤ Number.maxInt64) :
    int64 (.int i) = some i := by
  have hmax : i ≤ Number.maxInt := Int.le_trans h.2 (by decide)
  unfold int64 Json.int Number.ofInt
  rw [if_pos ⟨h.1, hmax⟩]
  simp only [Number.int64?, if_pos h.2]

theorem ActionKind.tag_name (kind : ActionKind) :
    tag .item name all (.str kind.name) = some kind := by
  cases kind <;> rfl

theorem DispatchMode.case_name (mode : DispatchMode) :
    case .item name [.set, .add, .remove] (.str mode.name) = some mode := by
  cases mode <;> rfl

theorem MessageLevel.case_name (level : Option MessageLevel) :
    optional (case .item name [.info, .success, .warning, .error]) (.text? (level.map name)) =
      some level := by
  rcases level with _ | level
  · rfl
  · cases level <;> rfl

theorem Channel.decode_name (channel : Channel) :
    decode .item (.str channel.name) = some channel := by
  cases channel <;> rfl

theorem RoleChangeMode.case_name (mode : RoleChangeMode) :
    case .item name [.propagate, .localOnly] (.str mode.name) = some mode := by
  cases mode <;> rfl

/-! ### Actions -/

theorem JumpMode.decode_toJson {mode : JumpMode} (h : mode.Storable) :
    decode mode.toJson = some mode := by
  cases mode with
  | immediate => exact tagged_object (by simp) rfl fun fields _ => reads_pure fields _
  | trigger name =>
      refine tagged_object (l := [("name", .str name)]) (b := "trigger") (by simp) rfl
        fun fields hfields => ?_
      obtain ⟨hname, -⟩ := List.forall_mem_cons.mp hfields
      have hread : Reads (do return .trigger (← field "name" text)) fields (JumpMode.trigger name) :=
        (field_named hname (text_str _)).bind (reads_pure fields _)
      exact hread
  | timeout seconds =>
      refine tagged_object (l := [("seconds", .int seconds)]) (b := "timeout") (by simp) rfl
        fun fields hfields => ?_
      obtain ⟨hseconds, -⟩ := List.forall_mem_cons.mp hfields
      have hread : Reads (do return .timeout (← field "seconds" int64)) fields
          (JumpMode.timeout seconds) :=
        (field_named hseconds (int64_int h)).bind (reads_pure fields _)
      exact hread

theorem DispatchRule.decode_toJson (rule : DispatchRule) : decode rule.toJson = some rule := by
  refine record_object (by simp) fun fields hfields => ?_
  simp only [Json.Fields.Has, List.forall_mem_cons] at hfields
  obtain ⟨hrole, hvalue, -⟩ := hfields
  exact (field_named hrole (text_str _)).bind <| (field_named hvalue (any_eq _)).bind <| reads_pure fields _

theorem EditScope.decode_toJson (scope : EditScope) : decode scope.toJson = some scope := by
  cases scope with
  | full => rfl
  | fields names =>
      show (list text (.texts names)).map EditScope.fields = _
      rw [list_texts, Option.map_some]

variable {fields : Json.Fields}

theorem Jump.reads {jump : Jump} (h : jump.mode.Storable)
    (hfields : fields.Has (Action.jump jump).toFields) : Reads Jump.fields fields jump := by
  simp only [Json.Fields.Has, Action.toFields, List.forall_mem_cons] at hfields
  obtain ⟨htarget, hmark, hmode, -⟩ := hfields
  exact (field_named htarget (text_str _)).bind <| (fieldOr_named hmark (flag_bool _)).bind <|
    (fieldOr_named hmode (JumpMode.decode_toJson h)).bind <| reads_pure fields _

theorem Choice.reads {choice : Choice} (hfields : fields.Has (Action.choice choice).toFields) :
    Reads Choice.fields fields choice := by
  simp only [Json.Fields.Has, Action.toFields, List.forall_mem_cons] at hfields
  obtain ⟨hlabel, hby, hneeds, hconfirmation, htarget, hmark, -⟩ := hfields
  exact (field_named hlabel (text_str _)).bind <| (fieldOr_named hby (list_texts _)).bind <|
    (fieldOr_named hneeds (flag_bool _)).bind <|
    (fieldOrNone_named hconfirmation (optional_text? _)).bind <|
    (field_named htarget (text_str _)).bind <| (fieldOr_named hmark (flag_bool _)).bind <| reads_pure fields _

theorem Dispatch.reads {dispatch : Dispatch}
    (hfields : fields.Has (Action.dispatch dispatch).toFields) :
    Reads Dispatch.fields fields dispatch := by
  simp only [Json.Fields.Has, Action.toFields, List.forall_mem_cons] at hfields
  obtain ⟨hfunction, hmode, hspec, hsource, hrules, -⟩ := hfields
  have hread := list_map (d := DispatchRule.decode) fun rule (_ : rule ∈ dispatch.rules) =>
    rule.decode_toJson
  exact (field_named hfunction (text_str _)).bind <|
    (fieldOr_named hmode dispatch.mode.case_name).bind <|
    (fieldOrNone_named hspec (optional_text? _)).bind <|
    (fieldOrNone_named hsource (optional_text? _)).bind <|
    (fieldOr_named hrules hread).bind <| reads_pure fields _

theorem Edit.reads {edit : Edit} (hfields : fields.Has (Action.edit edit).toFields) :
    Reads Edit.fields fields edit := by
  simp only [Json.Fields.Has, Action.toFields, List.forall_mem_cons] at hfields
  obtain ⟨hlabel, hby, htarget, hscope, -⟩ := hfields
  exact (fieldOrNone_named hlabel (optional_text? _)).bind <|
    (fieldOr_named hby (list_texts _)).bind <|
    (fieldOrNone_named htarget (optional_text? _)).bind <|
    (fieldOr_named hscope edit.scope.decode_toJson).bind <| reads_pure fields _

theorem Message.reads {message : Message} (hfields : fields.Has (Action.message message).toFields) :
    Reads Message.fields fields message := by
  simp only [Json.Fields.Has, Action.toFields, List.forall_mem_cons] at hfields
  obtain ⟨hto, hlevel, htemplate, -⟩ := hfields
  exact (fieldOr_named hto (list_texts _)).bind <|
    (fieldOrNone_named hlevel (MessageLevel.case_name _)).bind <|
    (field_named htemplate (text_str _)).bind <| reads_pure fields _

theorem Notification.reads {n : Notification} (hfields : fields.Has (Action.notify n).toFields) :
    Reads Notification.fields fields n := by
  simp only [Json.Fields.Has, Action.toFields, List.forall_mem_cons] at hfields
  obtain ⟨hchannel, hrecipients, hbody, htitle, -⟩ := hfields
  exact (field_named hchannel n.channel.decode_name).bind <| (field_named hrecipients (text_str _)).bind <|
    (field_named hbody (text_str _)).bind <| (fieldOrNone_named htitle (optional_text? _)).bind <|
    reads_pure fields _

theorem RoleChange.reads {operation : RoleOperation} {change : RoleChange}
    (hfields : fields.Has (Action.changeRole operation change).toFields) :
    Reads RoleChange.fields fields change := by
  simp only [Json.Fields.Has, Action.toFields, List.forall_mem_cons] at hfields
  obtain ⟨hspec, hmode, -⟩ := hfields
  exact (field_named hspec (text_str _)).bind <| (fieldOr_named hmode change.mode.case_name).bind <|
    reads_pure fields _

/-- **An action is read back** from the fields of an item of its kind. -/
theorem Action.reads {action : Action} (h : action.Storable)
    (hfields : fields.Has action.toFields) :
    Reads (Action.fields action.kind) fields action := by
  cases action with
  | jump jump => exact (Jump.reads h hfields).bind (reads_pure fields _)
  | choice choice => exact (Choice.reads hfields).bind (reads_pure fields _)
  | dispatch dispatch => exact (Dispatch.reads hfields).bind (reads_pure fields _)
  | edit edit => exact (Edit.reads hfields).bind (reads_pure fields _)
  | message message => exact (Message.reads hfields).bind (reads_pure fields _)
  | notify n => exact (Notification.reads hfields).bind (reads_pure fields _)
  | changeRole operation change =>
      cases operation with
      | add => exact (RoleChange.reads hfields).bind (reads_pure fields _)
      | remove => exact (RoleChange.reads hfields).bind (reads_pure fields _)

/-! ### Items and what holds them -/

/-- The fields of an item beside those of its action. -/
def Item.ownFields (item : Item) : List (String × Json) :=
  [("id", .str item.id), ("condition", .text? item.condition), ("identifier", .text? item.label),
    ("type", .str item.action.kind.name)]

theorem Item.names_nodup (item : Item) :
    ((item.ownFields ++ item.action.toFields).map Prod.fst).Nodup := by
  cases h : item.action with
  | _ => simp [ownFields, Action.toFields]

theorem Item.toJson_has (item : Item) :
    ∃ fields : Json.Fields, item.toJson = .obj fields ∧ fields.Has item.ownFields ∧
      fields.Has item.action.toFields :=
  ⟨_, rfl, (Json.Fields.has_ofList item.names_nodup).append⟩

theorem Item.decode_toJson {item : Item} (h : item.action.Storable) :
    decode item.toJson = some item := by
  obtain ⟨fields, hobject, hown, haction⟩ := item.toJson_has
  simp only [Json.Fields.Has, ownFields, List.forall_mem_cons] at hown
  obtain ⟨hid, hcondition, hlabel, htype, -⟩ := hown
  rw [hobject]
  unfold decode
  simp only [htype, Option.bind_eq_bind, Option.bind_some, ActionKind.tag_name]
  exact readAll_of_reads <| (field_named hid (text_str _)).bind <|
    (fieldOrNone_named hcondition (optional_text? _)).bind <|
    (fieldOrNone_named hlabel (optional_text? _)).bind <|
    (Action.reads h haction).bind <| reads_pure fields _

theorem Status.decode_toJson {status : Status} (h : ∀ item ∈ status.items, item.action.Storable) :
    decode status.toJson = some status := by
  refine record_object (by simp) fun fields hfields => ?_
  simp only [Json.Fields.Has, List.forall_mem_cons] at hfields
  obtain ⟨hid, hname, hitems, hend, -⟩ := hfields
  have hread := list_map (d := Item.decode) fun item hitem => Item.decode_toJson (h item hitem)
  exact (field_named hid (text_str _)).bind <| (field_named hname (text_str _)).bind <|
    (fieldOr_named hitems hread).bind <| (fieldOr_named hend (flag_bool _)).bind <| reads_pure fields _

theorem GlobalTrigger.decode_toJson (trigger : GlobalTrigger) :
    decode trigger.toJson = some trigger := by
  cases trigger with
  | manual admitted =>
      refine tagged_object (l := [("by", .texts admitted)]) (b := "manual") (by simp) rfl
        fun fields hfields => ?_
      obtain ⟨hby, -⟩ := List.forall_mem_cons.mp hfields
      have hread : Reads (do return .manual (← fieldOr "by" (list text) [])) fields
          (GlobalTrigger.manual admitted) :=
        (fieldOr_named hby (list_texts _)).bind (reads_pure fields _)
      exact hread
  | webservice name =>
      refine tagged_object (l := [("name", .str name)]) (b := "webservice") (by simp) rfl
        fun fields hfields => ?_
      obtain ⟨hname, -⟩ := List.forall_mem_cons.mp hfields
      have hread : Reads (do return .webservice (← field "name" text)) fields
          (GlobalTrigger.webservice name) :=
        (field_named hname (text_str _)).bind (reads_pure fields _)
      exact hread

theorem GlobalAction.decode_toJson {action : GlobalAction}
    (h : ∀ item ∈ action.items, item.action.Storable) : decode action.toJson = some action := by
  refine record_object (by simp) fun fields hfields => ?_
  simp only [Json.Fields.Has, List.forall_mem_cons] at hfields
  obtain ⟨hid, hname, htriggers, hitems, -⟩ := hfields
  have hread := list_map (d := Item.decode) fun item hitem => Item.decode_toJson (h item hitem)
  have hreadTriggers := list_map (d := GlobalTrigger.decode)
    fun trigger (_ : trigger ∈ action.triggers) => trigger.decode_toJson
  exact (field_named hid (text_str _)).bind <| (field_named hname (text_str _)).bind <|
    (fieldOr_named htriggers hreadTriggers).bind <| (fieldOr_named hitems hread).bind <|
    reads_pure fields _

namespace Workflow

variable {w : Workflow}

theorem toJson_has (w : Workflow) :
    ∃ fields : Json.Fields, w.toJson = .obj fields ∧
      fields.Has [("id", .str w.id), ("name", .str w.name), ("initial_status", .str w.initial),
        ("statuses", .arr (w.statuses.map Status.toJson)),
        ("roles", .ofTable (w.functions.mapValues .str)),
        ("global_actions", .arr (w.globalActions.map GlobalAction.toJson))] :=
  ⟨_, rfl, Json.Fields.has_ofList (by simp)⟩

/-- **A workflow is read back.** -/
theorem decode_toJson (h : w.Storable) : decode w.toJson = some w := by
  obtain ⟨fields, hobject, hfields⟩ := w.toJson_has
  simp only [Json.Fields.Has, List.forall_mem_cons] at hfields
  obtain ⟨hid, hname, hinitial, hstatuses, hroles, hactions, -⟩ := hfields
  have hreadStatuses := list_map (d := Status.decode) fun status (hs : status ∈ w.statuses) =>
    Status.decode_toJson fun item hi => h item (mem_items_of_status hs hi)
  have hreadActions := list_map (d := GlobalAction.decode)
    fun action (ha : action ∈ w.globalActions) =>
      GlobalAction.decode_toJson fun item hi => h item (mem_items_of_globalAction ha hi)
  have hreadRoles : table text (.ofTable (w.functions.mapValues .str)) = some w.functions :=
    table_ofTable fun _ _ => rfl
  rw [hobject]
  exact readAll_of_reads <| (field_named hid (text_str _)).bind <| (field_named hname (text_str _)).bind <|
    (field_named hinitial (text_str _)).bind <| (field_named hstatuses hreadStatuses).bind <|
    (fieldOr_named hroles hreadRoles).bind <| (fieldOr_named hactions hreadActions).bind <|
    reads_pure fields _

end Workflow

/-! ### What is read can be stored -/

theorem Decoder.int64_gives :
    Gives int64 fun i => Number.minInt ≤ i ∧ i ≤ Number.maxInt64 := by
  intro j i hj hi
  cases hj with
  | @num n hn =>
      cases n with
      | int k =>
          have hi : (if k ≤ Number.maxInt64 then some k else none) = some i := hi
          split at hi
          · next hle =>
            cases hi
            exact ⟨hn.1, hle⟩
          · cases hi
      | float x => cases hi
  | _ => cases hi

theorem JumpMode.decode_gives : Gives decode Storable := by
  refine tagged_gives fun kind => ?_
  split
  · exact pure_gives trivial
  · exact field_gives (gives_true text) fun _ _ => pure_gives trivial
  · exact field_gives int64_gives fun _ h => pure_gives h

theorem Action.fields_give (kind : ActionKind) : GivesFrom (Action.fields kind) Storable := by
  cases kind with
  | jump =>
      refine map_gives ?_
      exact field_gives (gives_true text) fun _ _ =>
        fieldOr_gives (gives_true flag) trivial fun _ _ =>
        fieldOr_gives JumpMode.decode_gives (by trivial) fun _ h => pure_gives h
  | _ => exact map_gives fun _ _ _ _ _ => trivial

theorem Item.decode_gives : Gives decode fun item => item.action.Storable := by
  intro j item hj hread
  cases hj with
  | obj hfields =>
      obtain ⟨_, _, hread⟩ := Option.bind_eq_some_iff.mp hread
      obtain ⟨kind, _, hread⟩ := Option.bind_eq_some_iff.mp hread
      refine readAll_gives (P := fun item => item.action.Storable) (.named _) ?_ hfields hread
      exact field_gives (gives_true text) fun _ _ =>
        fieldOr_gives (gives_true _) trivial fun _ _ =>
        fieldOr_gives (gives_true _) trivial fun _ _ => map_gives (Action.fields_give kind)
  | _ => cases hread

theorem Status.decode_gives : Gives decode fun status => ∀ item ∈ status.items, item.action.Storable :=
  record_gives <| field_gives (gives_true text) fun _ _ => field_gives (gives_true text) fun _ _ =>
    fieldOr_gives (list_gives Item.decode_gives) (by simp) fun _ h =>
    fieldOr_gives (gives_true flag) trivial fun _ _ => pure_gives h

theorem GlobalAction.decode_gives :
    Gives decode fun action => ∀ item ∈ action.items, item.action.Storable :=
  record_gives <| field_gives (gives_true text) fun _ _ => field_gives (gives_true text) fun _ _ =>
    fieldOr_gives (gives_true _) trivial fun _ _ =>
    fieldOr_gives (list_gives Item.decode_gives) (by simp) fun _ h => pure_gives h

/-- **A workflow that is read from a text can be stored.** -/
theorem Workflow.storable_of_decode {j : Json} {w : Workflow} (hj : j.Kept)
    (h : decode j = some w) : w.Storable := by
  have hgives : Gives decode Storable :=
    record_gives <| field_gives (gives_true text) fun _ _ => field_gives (gives_true text) fun _ _ =>
      field_gives (gives_true text) fun _ _ =>
      field_gives (list_gives Status.decode_gives) fun statuses hstatuses =>
      fieldOr_gives (gives_true _) trivial fun _ _ =>
      fieldOr_gives (list_gives GlobalAction.decode_gives) (by simp) fun actions hactions =>
      pure_gives <| by
        intro item hitem
        rcases List.mem_append.mp hitem with hitem | hitem
        · obtain ⟨status, hs, hi⟩ := List.mem_flatMap.mp hitem
          exact hstatuses status hs item hi
        · obtain ⟨action, ha, hi⟩ := List.mem_flatMap.mp hitem
          exact hactions action ha item hi
  exact hgives j w hj h

/-! ### Graphs -/

namespace Graph

variable {rules : Expression.Rules} {g : Graph}

/-- A graph that is made of a definition has the workflow that is read from it. -/
theorem of_ofJson {definition : Json} (h : ofJson rules definition = .ok g) :
    Workflow.decode definition = some g.workflow ∧ g.rules = rules := by
  obtain ⟨_, _, h⟩ := bind_eq_ok.mp h
  split at h
  · next w hw =>
    obtain ⟨rfl, hrules⟩ := ofWorkflow_eq_ok_iff.mp h
    exact ⟨hw, hrules⟩
  · cases h

theorem checkKind_toJson (item : Item) : checkKind item.toJson = .ok () := by
  obtain ⟨fields, hobject, hown, -⟩ := item.toJson_has
  have htype : rawText? item.toJson "type" = some item.action.kind.name := by
    have hget := hown ("type", .str item.action.kind.name) (by simp [Item.ownFields])
    unfold rawText? Json.field?
    rw [hobject]
    simp only [hget]
  have hknown : item.action.kind.name ∈ ActionKind.all.map ActionKind.name := by
    cases item.action.kind <;> decide
  unfold checkKind
  simp only [htype, Option.getD_some, if_pos hknown]

theorem rawItems_toJson (w : Workflow) :
    (rawContainers w.toJson "statuses" ++ rawContainers w.toJson "global_actions").flatMap rawItems =
      w.items.map Item.toJson := by
  have hstatus : ∀ status : Status, rawItems status.toJson = status.items.map Item.toJson := by
    intro status
    unfold rawItems Status.toJson Json.object Json.field?
    simp [Json.Fields.ofList, Json.get?_insertField]
  have haction : ∀ action : GlobalAction, rawItems action.toJson = action.items.map Item.toJson := by
    intro action
    unfold rawItems GlobalAction.toJson Json.object Json.field?
    simp [Json.Fields.ofList, Json.get?_insertField]
  obtain ⟨fields, hobject, hfields⟩ := w.toJson_has
  simp only [Json.Fields.Has, List.forall_mem_cons] at hfields
  obtain ⟨-, -, -, hstatuses, -, hactions, -⟩ := hfields
  unfold rawContainers Json.field?
  rw [hobject]
  simp only [hstatuses, hactions]
  rw [List.flatMap_append, List.flatMap_map, List.flatMap_map]
  unfold Workflow.items
  rw [List.map_append, List.map_flatMap, List.map_flatMap]
  simp only [hstatus, haction]

/-- **What is written of a graph makes the graph again.** -/
theorem ofJson_toJson (h : g.workflow.Storable) : ofJson g.rules g.workflow.toJson = .ok g := by
  have hkinds : Item.checkEach checkKind (g.workflow.items.map Item.toJson) = .ok () := by
    refine Item.checkEach_eq_ok.mpr fun j hj => ?_
    obtain ⟨item, _, rfl⟩ := List.mem_map.mp hj
    exact checkKind_toJson item
  unfold ofJson
  simp only [rawItems_toJson, hkinds, ok_bind, Workflow.decode_toJson h]
  exact ofWorkflow_eq_ok_iff.mpr ⟨rfl, rfl⟩

/-- **A definition that was loaded survives being stored.**  The value that is written of its
workflow loads, with the same workflow in every part, and is written alike.  So does every text of
that value. -/
theorem load_stored {definition : String} (h : load rules definition = .ok g) :
    ∃ g', ofJson rules g.workflow.toJson = .ok g' ∧ g'.workflow = g.workflow ∧
      g'.workflow.toJson = g.workflow.toJson ∧
      ∀ text, Json.read? text = some g.workflow.toJson → load rules text = .ok g' := by
  unfold load at h
  split at h
  · next j hread =>
    obtain ⟨hdecode, rfl⟩ := of_ofJson h
    have hstored := ofJson_toJson (Workflow.storable_of_decode (Json.kept_of_read? hread) hdecode)
    refine ⟨g, hstored, rfl, rfl, fun text htext => ?_⟩
    unfold load
    rw [htext]
    exact hstored
  · cases h

end Graph

namespace Sample

/-- A definition that lists the fields of the workflow and of its status in order. -/
def listed : String :=
  "[\"request\", \"Request\", \"draft\", [[\"draft\", \"Draft\", [\x7b\"id\": \"stale\", " ++
  "\"type\": \"jump\", \"target\": \"draft\", \"mode\": [\"timeout\", 3600]\x7d]]]]"

def listedWorkflow : Workflow :=
  ⟨"request", "Request", "draft",
    [⟨"draft", "Draft", [⟨"stale", none, none, .jump ⟨"draft", false, .timeout 3600⟩⟩], false⟩],
    ∅, []⟩

end Sample

/-- The definition is stored with all names and defaults, and loads as before. -/
theorem Graph.load_stored_sample :
    ∃ g, Graph.load .default Sample.listed = .ok g ∧ g.workflow = Sample.listedWorkflow ∧
      ∃ g', Graph.ofJson .default Sample.listedWorkflow.toJson = .ok g' ∧
        g'.workflow = Sample.listedWorkflow := by
  have hread : (Graph.load .default Sample.listed).map Graph.workflow =
      .ok Sample.listedWorkflow := by decide +kernel
  cases hload : Graph.load .default Sample.listed with
  | error e =>
      rw [hload] at hread
      cases hread
  | ok g =>
      rw [hload] at hread
      have hworkflow : g.workflow = Sample.listedWorkflow := Except.ok.inj hread
      obtain ⟨g', hstored, hsame, -, -⟩ := Graph.load_stored hload
      rw [hworkflow] at hstored hsame
      exact ⟨g, rfl, hworkflow, g', hstored, hsame⟩

end Docket
