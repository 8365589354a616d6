import Docket.Digest
import Docket.Json.Decoder
import Docket.Record.Codec

/-!
# The failure log

What goes wrong in a pass without stopping it is written into a log.  A failure has a site, a kind
and a cause, and `techId` makes one identifier of them, leaving out the record.  Failures with the
same identifier share a line of the log, which counts them.

The line recorded last stands first, so the log needs no clock for its order.
-/

namespace Docket

/-- What may go wrong. -/
inductive FailureKind where
  | conditionFailed
  | templateFailed
  | missingRole
  | missingUser
  | dispatchFailed
  | directoryFailed
  | notifyFailed
  | roleSyncFailed
  | tooManyJumps
  deriving DecidableEq, Repr

namespace FailureKind

def all : List FailureKind :=
  [.conditionFailed, .templateFailed, .missingRole, .missingUser, .dispatchFailed, .directoryFailed,
    .notifyFailed, .roleSyncFailed, .tooManyJumps]

def name : FailureKind → String
  | .conditionFailed => "condition_failed"
  | .templateFailed => "template_failed"
  | .missingRole => "missing_role"
  | .missingUser => "missing_user"
  | .dispatchFailed => "dispatch_failed"
  | .directoryFailed => "directory_failed"
  | .notifyFailed => "notify_failed"
  | .roleSyncFailed => "role_sync_failed"
  | .tooManyJumps => "too_many_jumps"

def decode : Decoder FailureKind := Decoder.case .own name all

end FailureKind

/-- Where something went wrong. -/
structure FailureSite where
  workflowId : String
  statusId : Option String
  actionId : Option String
  recordId : Option Uuid
  deriving DecidableEq, Repr

/-- A line of the log. -/
structure LoggedError where
  techId : String
  workflowId : String
  statusId : Option String
  actionId : Option String
  /-- The last record for which it went wrong. -/
  recordId : Option Uuid
  kind : FailureKind
  summary : String
  count : Nat
  firstSeen : Instant
  lastSeen : Instant
  deriving DecidableEq, Repr

/-- The identifier of a failure: the site without the record, the kind and a digest of the cause. -/
def techId (site : FailureSite) (kind : FailureKind) (cause : String) : String :=
  site.workflowId ++ "-" ++ site.statusId.getD "_" ++ "-" ++ site.actionId.getD "_" ++ "-" ++ kind.name
    ++ "-" ++ Digest.short cause

namespace LoggedError

/-- The line of a failure that is seen for the first time. -/
def first (now : Instant) (site : FailureSite) (kind : FailureKind) (cause : String) : LoggedError :=
  { techId := Docket.techId site kind cause, workflowId := site.workflowId,
    statusId := site.statusId, actionId := site.actionId, recordId := site.recordId, kind,
    summary := cause, count := 1, firstSeen := now, lastSeen := now }

/-- The line after one more failure, which may name another record. -/
def again (e : LoggedError) (now : Instant) (recordId : Option Uuid) : LoggedError :=
  { e with count := e.count + 1, lastSeen := now, recordId := recordId <|> e.recordId }

end LoggedError

/-- The log, with the line recorded last first. -/
structure FailureLog where
  lines : List LoggedError
  distinct : (lines.map LoggedError.techId).Nodup

namespace FailureLog

instance : DecidableEq FailureLog := fun s t =>
  decidable_of_iff (s.lines = t.lines)
    ⟨fun h => by cases s; cases t; cases h; rfl, fun h => h ▸ rfl⟩

def empty : FailureLog := ⟨[], .nil⟩

def get? (log : FailureLog) (id : String) : Option LoggedError :=
  log.lines.find? fun e => e.techId = id

def size (log : FailureLog) : Nat := log.lines.length

/-- Puts a line first, in place of the one with the same identifier. -/
def putFirst (log : FailureLog) (e : LoggedError) : FailureLog where
  lines := e :: log.lines.filter fun f => f.techId ≠ e.techId
  distinct := by
    rw [List.map_cons, List.nodup_cons]
    refine ⟨fun h => ?_, log.distinct.sublist (List.filter_sublist.map _)⟩
    obtain ⟨f, hf, he⟩ := List.mem_map.1 h
    simp [he] at hf

/-- The line of a failure after it is recorded. -/
def lineAfter (log : FailureLog) (now : Instant) (site : FailureSite) (kind : FailureKind)
    (cause : String) : LoggedError :=
  match log.get? (techId site kind cause) with
  | some e => e.again now site.recordId
  | none => .first now site kind cause

def record (log : FailureLog) (now : Instant) (site : FailureSite) (kind : FailureKind)
    (cause : String) : FailureLog :=
  log.putFirst (log.lineAfter now site kind cause)

theorem get?_putFirst (log : FailureLog) (e : LoggedError) (id : String) :
    (log.putFirst e).get? id = if e.techId = id then some e else log.get? id := by
  unfold get? putFirst
  by_cases h : e.techId = id
  · simp [h]
  · rw [List.find?_cons_of_neg (by simpa using h), List.find?_filter, if_neg h]
    congr 1
    funext f
    by_cases hf : f.techId = id <;> simp [hf, Ne.symm h]

end FailureLog

/-! ## Calls -/

/-- A failure as it is reported to the log. -/
structure Incident where
  now : Instant
  site : FailureSite
  kind : FailureKind
  cause : String
  deriving DecidableEq, Repr

/-- The identifier under which an incident counts. -/
def Incident.techId (i : Incident) : String := Docket.techId i.site i.kind i.cause

namespace FailureLog

/-- What is asked of the log: to record an incident, or to forget all of them. -/
inductive Call where
  | record (incident : Incident)
  | clear
  deriving DecidableEq, Repr

/-- What the log hands back for an incident: its identifier and how often it has been recorded. -/
structure Receipt where
  techId : String
  count : Nat
  deriving DecidableEq, Repr

/-- The log after a call. -/
def next (log : FailureLog) : Call → FailureLog
  | .record i => log.record i.now i.site i.kind i.cause
  | .clear => empty

/-- What the log hands back for a call; nothing when it is cleared. -/
def receipt? (log : FailureLog) : Call → Option Receipt
  | .record i =>
    let line := log.lineAfter i.now i.site i.kind i.cause
    some ⟨line.techId, line.count⟩
  | .clear => none

end FailureLog

/-! ## As JSON -/

def FailureSite.decode : Decoder FailureSite := Decoder.record do
  return {
    workflowId := ← Decoder.field "workflow_id" Decoder.text
    statusId := ← Decoder.field? "status_id" Decoder.text
    actionId := ← Decoder.field? "action_id" Decoder.text
    recordId := ← Decoder.field? "record_id" Decoder.uuid }

/-- An identifier as a value, or null. -/
def Uuid.toJson? : Option Uuid → Json
  | some id => .str id.write
  | none => .null

def FailureSite.toJson (s : FailureSite) : Json :=
  Json.object [("workflow_id", .str s.workflowId), ("status_id", .text? s.statusId),
    ("action_id", .text? s.actionId), ("record_id", Uuid.toJson? s.recordId)]

def LoggedError.decode : Decoder LoggedError := Decoder.record do
  return {
    techId := ← Decoder.field "tech_id" Decoder.text
    workflowId := ← Decoder.field "workflow_id" Decoder.text
    statusId := ← Decoder.field? "status_id" Decoder.text
    actionId := ← Decoder.field? "action_id" Decoder.text
    recordId := ← Decoder.field? "record_id" Decoder.uuid
    kind := ← Decoder.field "kind" FailureKind.decode
    summary := ← Decoder.field "summary" Decoder.text
    count := ← Decoder.field "occurrences_count" Decoder.nat64
    firstSeen := ← Decoder.field "first_seen" Decoder.instant
    lastSeen := ← Decoder.field "last_seen" Decoder.instant }

def LoggedError.toJson (e : LoggedError) : Json :=
  Json.object [("tech_id", .str e.techId), ("workflow_id", .str e.workflowId),
    ("status_id", .text? e.statusId), ("action_id", .text? e.actionId),
    ("record_id", Uuid.toJson? e.recordId), ("kind", .str e.kind.name), ("summary", .str e.summary),
    ("occurrences_count", .nat e.count), ("first_seen", e.firstSeen.toJson),
    ("last_seen", e.lastSeen.toJson)]

end Docket
