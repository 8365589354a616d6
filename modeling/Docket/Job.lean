import Docket.Failure
import Docket.Workflow.Codec

/-!
# After-jobs

A pass does not do everything at once.  What concerns the identity provider, and notifications if
they are deferred, it leaves behind as jobs that are done after the record is saved.
-/

namespace Docket

/-- A notification with everything filled in. -/
structure Notice where
  channel : Channel
  recipients : List String
  body : String
  metadata : Json
  deriving DecidableEq, Repr

/-- A change of a role for all identifiers that a user has at the identity provider. -/
structure RoleSync where
  userId : String
  nameIds : List String
  roleId : String
  operation : RoleOperation
  deriving DecidableEq, Repr

/-- A job to be done after a pass. -/
inductive AfterJob where
  | syncRole (site : FailureSite) (sync : RoleSync)
  | notify (site : FailureSite) (notice : Notice)
  deriving DecidableEq, Repr

namespace AfterJob

/-- Where a failure of the job counts. -/
def site : AfterJob → FailureSite
  | .syncRole site _ | .notify site _ => site

/-- As what a failure of the job counts. -/
def failureKind : AfterJob → FailureKind
  | .syncRole .. => .roleSyncFailed
  | .notify .. => .notifyFailed

def name : AfterJob → String
  | .syncRole .. => "sync_role"
  | .notify .. => "notify"

def decode : Decoder AfterJob :=
  Decoder.tagged "type" (Decoder.tag .own id ["sync_role", "notify"]) fun kind => do
    let site ← Decoder.field "site" FailureSite.decode
    match kind with
    | "sync_role" =>
      return .syncRole site {
        userId := ← Decoder.field "user_id" Decoder.text
        nameIds := ← Decoder.field "name_ids" (Decoder.list Decoder.text)
        roleId := ← Decoder.field "role_id" Decoder.text
        operation := ← Decoder.field "operation" (RoleOperation.decode .item) }
    | _ =>
      return .notify site {
        channel := ← Decoder.field "channel" (Channel.decode .item)
        recipients := ← Decoder.field "recipients" (Decoder.list Decoder.text)
        body := ← Decoder.field "body" Decoder.text
        metadata := ← Decoder.field "metadata" Decoder.any }

def toJson : AfterJob → Json
  | .syncRole site sync =>
    Json.object [("type", .str "sync_role"), ("site", site.toJson), ("user_id", .str sync.userId),
      ("name_ids", .texts sync.nameIds), ("role_id", .str sync.roleId),
      ("operation", .str sync.operation.name)]
  | .notify site notice =>
    Json.object [("type", .str "notify"), ("site", site.toJson),
      ("channel", .str notice.channel.name), ("recipients", .texts notice.recipients),
      ("body", .str notice.body), ("metadata", notice.metadata)]

end AfterJob
end Docket
