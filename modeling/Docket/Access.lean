import Docket.Resolver

/-!
# Who may act

An item that a person fires lists who is admitted: `_submitter`, `logged-users`, a function of the
workflow, or a role of the directory.  An empty list admits everybody, also nobody in particular; a
list that is not empty admits only a user.
-/

namespace Docket

/-- The entry that admits every user. -/
def loggedUsers : String := "logged-users"

/-- The entry that admits the submitter of the record. -/
def submitterEntry : String := "_submitter"

namespace Directory

/-- Whether a user has a role or is the user of a pseudo role. -/
def standsFor (d : Directory) (user role : String) : Bool :=
  userOfRole? role = some user || d.holds user role

/-- Whether an entry admits a user to a record. -/
def entryAdmits (d : Directory) (r : Record) (user entry : String) : Bool :=
  if entry = submitterEntry then r.submitter = some user
  else if entry = loggedUsers then true
  else if Record.isHidden entry then
    (r.buckets.value? entry).any fun roles => roles.items.any fun role => d.standsFor user role
  else (d.lookup? entry).any fun role => d.standsFor user role

def admits (d : Directory) (r : Record) (user : Option String) (admitted : List String) : Bool :=
  if admitted.isEmpty then true
  else
    match user with
    | some u => admitted.any fun entry => d.entryAdmits r u entry
    | none => false

end Directory
end Docket
