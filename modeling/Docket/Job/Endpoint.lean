import Docket.Job.Worker
import Docket.Settings
import Docket.Web.Address

/-!
# The services behind the gateway

Each call of the gateway is one request to a service: the relay for short messages, the portal for
other notifications, the identity provider for roles.  A call whose service has no address fails, and
so does one that the service answers with anything but success.
-/

namespace Docket

/-- What a request does. -/
inductive WebMethod where
  | post
  | delete
  deriving DecidableEq, Repr

def WebMethod.name : WebMethod → String
  | .post => "POST"
  | .delete => "DELETE"

/-- A request to a service. -/
structure WebRequest where
  method : WebMethod
  address : Address
  body : Option Json
  deriving DecidableEq, Repr

/-- Why a request that is answered with a status fails, if it does. -/
def WebRequest.fault? (r : WebRequest) (status : Nat) : Option JobError :=
  if 200 ≤ status ∧ status < 300 then none else some (.answered r.address.write status)

namespace GatewaySettings

/-- The address of what a service has at some segments after its base. -/
def endpoint (base : Option String) (service : String) (segments : List String) :
    Except JobError Address :=
  match base with
  | none => .error (.notConfigured service)
  | some base =>
    match Address.read? base with
    | .ok address => .ok (address.extend segments)
    | .error .opaquePath =>
      .error (.rejected (service ++ " url " ++ base ++ " " ++ Address.Error.opaquePath.message))
    | .error e => .error (.rejected ("invalid " ++ service ++ " url " ++ base ++ ": " ++ e.message))

/-- The heading of a notification: its title, else its body. -/
def heading (notice : Notice) : String :=
  match notice.metadata.field? "title" with
  | some (.str title) => title
  | _ => notice.body

/-- The request that a call makes. -/
def request (settings : GatewaySettings) : GatewayCall → Except JobError WebRequest
  | .send notice =>
    match notice.channel with
    | .sms => do
      let address ← endpoint settings.sms "sms" []
      return {
        method := .post, address
        body := some (Json.object
          [("message", .str notice.body), ("to", .texts notice.recipients)]) }
    | .webservice => do
      let address ← endpoint settings.portal "notification" ["api", "notification", "add", ""]
      return {
        method := .post, address
        body := some (Json.object
          [("summary", .str (heading notice)), ("body", .str notice.body),
            ("name_ids", .texts notice.recipients),
            ("origin", (notice.metadata.field? "workflow_id").getD .null)]) }
  | .setMember operation roleId nameId => do
    let address ← endpoint settings.identity "role sync"
      ["api", "roles", roleId, "members", nameId, ""]
    return {
      method := match operation with | .add => .post | .remove => .delete
      address
      body := none }

def requests (settings : GatewaySettings) (calls : List GatewayCall) : List WebRequest :=
  calls.filterMap fun call => (settings.request call).toOption

/-- The gateway to services that answer each request, after the requests before it, with a status. -/
def gateway (settings : GatewaySettings) (services : List WebRequest → WebRequest → Nat) : Gateway :=
  fun before call =>
    match settings.request call with
    | .error e => some e
    | .ok r => r.fault? (services (settings.requests before) r)

end GatewaySettings
end Docket
