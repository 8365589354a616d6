import Docket.Json.Decoder

/-!
# The directory of roles and users

The directory lists the roles that exist and the users with the roles they hold.  A role is found by
its identifier, then by its slug, then by its name, and the first in the list counts.  Users are
kept in order of their identifiers, so that a search by another attribute has a first answer too.

`grant` and `revoke` are the only operations that change what a user holds.  Doing either twice is
no error: the answer says whether anything changed.
-/

namespace Docket

/-- A role that users may hold. -/
structure Role where
  id : String
  name : String
  slug : String
  deriving DecidableEq, Repr

/-- A user of the directory. -/
structure User where
  id : String
  name : String
  email : Option String
  phone : Option String
  /-- The identifiers of the user at the identity provider. -/
  nameIds : List String
  roles : NameSet
  isActive : Bool
  isDeleted : Bool
  deriving DecidableEq, Repr

/-- The roles that exist and the users. -/
structure Directory where
  roles : List Role
  users : Keyed User.id
  deriving DecidableEq, Repr

/-- What a user may be found by. -/
inductive Attribute where
  | id
  | nameId
  | email
  | name
  deriving DecidableEq, Repr

namespace Role

def decode : Decoder Role := Decoder.record do
  return {
    id := ← Decoder.field "id" Decoder.text
    name := ← Decoder.field "name" Decoder.text
    slug := ← Decoder.field "slug" Decoder.text }

def toJson (r : Role) : Json :=
  Json.object [("id", .str r.id), ("name", .str r.name), ("slug", .str r.slug)]

end Role

namespace User

/-- Whether a user may receive messages. -/
def isReachable (u : User) : Bool := u.isActive && !u.isDeleted

/-- Where messages to a user go: the first identifier at the identity provider, else the user's own. -/
def address (u : User) : String := u.nameIds.head?.getD u.id

/-- The value of an attribute, of several the first. -/
def valueOf (u : User) : Attribute → Option String
  | .id => some u.id
  | .nameId => u.nameIds.head?
  | .email => u.email
  | .name => some u.name

/-- Whether a user is found by a value of an attribute. -/
def answersTo (u : User) (what : Attribute) (value : String) : Bool :=
  match what with
  | .id => u.id = value
  | .nameId => u.nameIds.contains value
  | .email => u.email = some value
  | .name => u.name = value

def decode : Decoder User := Decoder.record do
  return {
    id := ← Decoder.field "id" Decoder.text
    name := ← Decoder.field "name" Decoder.text
    email := ← Decoder.fieldOrNone "email" Decoder.text
    phone := ← Decoder.fieldOrNone "phone" Decoder.text
    nameIds := ← Decoder.fieldOr "name_ids" (Decoder.list Decoder.text) []
    roles := ← Decoder.fieldOr "roles" Decoder.nameSet ∅
    isActive := ← Decoder.fieldOr "is_active" Decoder.flag true
    isDeleted := ← Decoder.fieldOr "deleted" Decoder.flag false }

def toJson (u : User) : Json :=
  Json.object [
    ("id", .str u.id), ("name", .str u.name), ("email", .text? u.email), ("phone", .text? u.phone),
    ("name_ids", .texts u.nameIds), ("roles", .texts u.roles.items),
    ("is_active", .bool u.isActive), ("deleted", .bool u.isDeleted)]

end User

namespace Directory

/-- Why the directory refuses to change what a user holds. -/
inductive Error where
  | unknownUser (id : String)
  | unknownRole (id : String)
  deriving DecidableEq, Repr

def Error.message : Error → String
  | .unknownUser id => "unknown user '" ++ id ++ "'"
  | .unknownRole id => "unknown role '" ++ id ++ "'"

def empty : Directory := ⟨[], ∅⟩

/-- The directory with the given roles and users, of which a later one replaces an earlier one with
the same identifier. -/
def ofLists (roles : List Role) (users : List User) : Directory := ⟨roles, Keyed.ofList users⟩

/-! ## Looking up -/

def roleById? (d : Directory) (id : String) : Option Role := d.roles.find? fun r => r.id = id

def roleBySlug? (d : Directory) (slug : String) : Option Role := d.roles.find? fun r => r.slug = slug

def roleByName? (d : Directory) (name : String) : Option Role := d.roles.find? fun r => r.name = name

/-- The identifier of the role that is found by its identifier, else its slug, else its name. -/
def lookup? (d : Directory) (spec : String) : Option String :=
  (d.roleById? spec <|> d.roleBySlug? spec <|> d.roleByName? spec).map Role.id

def user? (d : Directory) (id : String) : Option User := d.users.get? id

/-- The first user who is found by a value of an attribute. -/
def findUser? (d : Directory) (what : Attribute) (value : String) : Option User :=
  match what with
  | .id => d.user? value
  | _ => d.users.items.find? fun u => u.answersTo what value

def members (d : Directory) (role : String) : List User :=
  d.users.items.filter fun u => u.roles.contains role

def holds (d : Directory) (user role : String) : Bool :=
  (d.user? user).any fun u => u.roles.contains role

def rolesOf (d : Directory) (user : String) : List String :=
  match d.user? user with
  | some u => u.roles.items
  | none => []

/-! ## Changing -/

/-- Puts a user in the place of the one with the same identifier. -/
def setUser (d : Directory) (u : User) : Directory := { d with users := d.users.insert u }

/-- Says whether a user is active and whether the user is deleted. -/
def setReachable (d : Directory) (user : String) (active deleted : Bool) : Directory :=
  match d.user? user with
  | some u => d.setUser { u with isActive := active, isDeleted := deleted }
  | none => d

/-- Gives a user a role that exists, and says whether the user did not hold it. -/
def grant (d : Directory) (user role : String) : Except Error (Bool × Directory) :=
  if d.roles.any fun r => r.id = role then
    match d.user? user with
    | some u => .ok (!u.roles.contains role, d.setUser { u with roles := u.roles.insert role })
    | none => .error (.unknownUser user)
  else .error (.unknownRole role)

/-- Takes a role from a user, and says whether the user held it. -/
def revoke (d : Directory) (user role : String) : Except Error (Bool × Directory) :=
  match d.user? user with
  | some u => .ok (u.roles.contains role, d.setUser { u with roles := u.roles.erase role })
  | none => .error (.unknownUser user)

def decode : Decoder Directory := Decoder.record do
  let roles ← Decoder.fieldOr "roles" (Decoder.list Role.decode) []
  let users ← Decoder.fieldOr "users" (Decoder.list User.decode) []
  return ofLists roles users

end Directory
end Docket
