import Docket.Service.Body
import Docket.Text.Blank
import Docket.Uuid
import Docket.Web.MediaType
import Docket.Web.Percent

/-!
# Requests to the service

A request has a method, a path, perhaps the name of the acting user and perhaps a body with its
content type.  A `Route` is a path that the service knows; the segments between slashes are compared
as they are written, and those that are parameters are decoded afterwards.
-/

namespace Docket

/-- A body and its content type. -/
structure Content where
  type : String
  text : String
  deriving DecidableEq, Repr

/-- A request. -/
structure Request where
  method : String
  path : String
  /-- The header that names the acting user. -/
  user : Option String
  content : Option Content
  deriving DecidableEq, Repr

/-- What an answer says: a status and perhaps a value. -/
structure Response where
  status : Nat
  body : Option Json
  deriving DecidableEq, Repr

/-- A path that the service knows, with its parameters as they are written. -/
inductive Route where
  | workflows
  | failures
  | records
  | record (id : String)
  | run (id : String)
  | submit (id item : String)
  | trigger (id name : String)
  | runGlobal (id action : String)
  deriving DecidableEq, Repr

namespace Route

/-- The route of the segments after the version.  The last segment of a path is not empty. -/
def ofSegments? : List String → Option Route
  | ["workflows"] => some .workflows
  | ["errors"] => some .failures
  | ["records"] => some .records
  | ["records", id] => if id = "" then none else some (.record id)
  | ["records", id, "run"] => some (.run id)
  | ["records", id, "actions", item] => if item = "" then none else some (.submit id item)
  | ["records", id, "triggers", name] => if name = "" then none else some (.trigger id name)
  | ["records", id, "global-actions", action] =>
    if action = "" then none else some (.runGlobal id action)
  | _ => none

/-- Whether a character may stand in the scheme of an address. -/
def inScheme (c : Char) : Bool := c.isAlphanum || c == '+' || c == '-' || c == '.'

/-- The path of a target without its query.  Where the target is a whole address, the path begins
after the host. -/
def pathOf (target : String) : List Char :=
  let s := target.toList.takeWhile fun c => c != '?' && c != '#'
  match s.span inScheme with
  | (_ :: _, ':' :: '/' :: '/' :: rest) => rest.dropWhile (· != '/')
  | _ => s

/-- The route of a target. -/
def ofTarget? (target : String) : Option Route :=
  match (String.ofList (pathOf target)).splitOn "/" with
  | "" :: "api" :: "v1" :: rest => ofSegments? rest
  | _ => none

/-- Whether a route is only looked at. -/
def isRead : Route → Bool
  | .workflows | .failures | .record _ => true
  | _ => false

/-- Whether a route has a method. -/
def allows (route : Route) (method : String) : Bool :=
  if route.isRead then method = "GET" || method = "HEAD" else method = "POST"

end Route

/-! ## Parts of a request -/

/-- The identifier that a parameter stands for. -/
def recordParameter? (parameter : String) : Option Uuid := (Percent.decode? parameter).bind Uuid.read?

namespace Request

/-- The acting user, unless the header is empty or has other characters than printable ones of
ASCII. -/
def actingUser? (r : Request) : Option String := do
  let header ← r.user
  let isBlank (c : Char) : Bool := c == ' ' || c == '\t'
  if header.toList.all fun c => c == '\t' || (0x20 ≤ c.toNat && c.toNat < 0x7f) then
    let name := Text.trimOf isBlank header.toList
    if name.isEmpty then none else some (String.ofList name)
  else none

/-- How many bytes a body may have. -/
def bodyLimit : Nat := 2097152

/-- Reads the body of a request, or gives the status of the answer to one that cannot be read. -/
def readBody {α : Type} (r : Request) (body : Body α) : Except Nat α :=
  match r.content with
  | none => .error 415
  | some content =>
    if !(MediaType.read? content.type).any MediaType.isJson then .error 415
    else if bodyLimit < content.text.utf8ByteSize then .error 413
    else
      match body.read content.text with
      | .ok a => .ok a
      | .error .unreadable => .error 400
      | .error .misshapen => .error 422

end Request
end Docket
