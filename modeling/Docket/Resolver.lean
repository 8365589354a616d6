import Docket.Context
import Docket.Directory
import Docket.Expression.Rules

/-!
# Whom a specification means

A role specification is the identifier, slug or name of a role, the name of a function of the
workflow, a form such as `_user_email:ada@example.org`, or a template whose value is any of these or
a list of them.  It resolves to roles.  A single user stands among roles as the pseudo role `_user:`
with the identifier of the user.

Each value of a specification is resolved by itself: `Resolver.resolve` returns the roles of all
that resolve, and a miss for every value that does not.
-/

namespace Docket

open Expression (Rules Variables)

/-! ## Pseudo roles -/

/-- The beginning of a pseudo role. -/
def userMark : String := "_user:"

/-- The pseudo role of a user. -/
def userRole (id : String) : String := userMark ++ id

/-- The user of a pseudo role. -/
def userOfRole? (role : String) : Option String :=
  if userMark.toList.isPrefixOf role.toList then
    some (String.ofList (role.toList.drop userMark.length))
  else none

/-! ## Misses -/

/-- Why a value does not resolve.  The template is the one that the value came from. -/
inductive Miss where
  | role (value : String) (template : Option String)
  | user (value : String) (template : Option String)
  | unreadable (template : String) (error : Expression.Error)
  deriving DecidableEq, Repr

namespace Miss

/-- Where a value came from. -/
def origin : Option String → String
  | some template => ", from " ++ template
  | none => ""

def message : Miss → String
  | .role value template => "missing role (" ++ value ++ origin template ++ ")"
  | .user value template => "missing user (" ++ value ++ origin template ++ ")"
  | .unreadable template error => "cannot render role template " ++ template ++ ": " ++ error.message

end Miss

/-! ## The values of a specification -/

/-- The piece of a text before its first comma, and the pieces after it. -/
def firstCommaPiece : List Char → List Char × List (List Char)
  | [] => ([], [])
  | c :: rest =>
    let (piece, more) := firstCommaPiece rest
    if c = ',' then ([], piece :: more) else (c :: piece, more)

/-- The pieces of a text between its commas. -/
def commaPieces (s : List Char) : List (List Char) :=
  let (piece, more) := firstCommaPiece s
  piece :: more

/-- The values that a text stands for: itself, or its pieces, without blanks around them and without
empty ones. -/
def textValues (split : Bool) (s : String) : List String :=
  let parts := if split then commaPieces s.toList else [s.toList]
  ((parts.map Text.trim).filter fun p => !p.isEmpty).map String.ofList

mutual

/-- The values that a value stands for, those of a list in order. -/
def flatten (split : Bool) : Json → List String
  | .arr items => flattenItems split items
  | .null => []
  | .str s => textValues split s
  | .bool b => [(Json.bool b).text]
  | .num n => [(Json.num n).text]
  | .obj fields => [(Json.obj fields).text]

/-- The values that the items of a list stand for. -/
def flattenItems (split : Bool) : List Json → List String
  | [] => []
  | j :: rest => flatten split j ++ flattenItems split rest

end

/-- The names of a list without repetitions, in order of their first occurrence. -/
def distinctNames (names : List String) : List String :=
  names.foldl (fun seen n => if n ∈ seen then seen else seen ++ [n]) []

/-- The attribute and the value of a form that names a user; without a value it means the submitter. -/
def userForm? (value : String) : Option (Attribute × Option String) :=
  let s := value.toList
  let form := s.takeWhile (· ≠ ':')
  let argument := match s.dropWhile (· ≠ ':') with
    | _ :: rest => some (String.ofList (Text.trim rest))
    | [] => none
  match String.ofList form with
  | "_user" => some (.id, argument)
  | "_user_nameid" => some (.nameId, argument)
  | "_user_email" => some (.email, argument)
  | "_user_name" => some (.name, argument)
  | _ => none

/-! ## Resolving -/

/-- Everything that the meaning of a specification depends on. -/
structure Resolver where
  directory : Directory
  rules : Rules
  /-- Whom the forms without a value mean. -/
  submitter : Option String
  /-- The roles of the workflow's functions. -/
  buckets : Buckets
  /-- Whether a text with commas is a list. -/
  split : Bool

namespace Resolver

variable (s : Resolver)

/-- The template that a value of a specification came from. -/
def templateOf (spec : String) : Option String :=
  if Expression.isTemplate spec then some spec else none

/-- The values of a specification. -/
def expand (vars : Variables) (spec : String) : Except Miss (List String) :=
  if Expression.isTemplate spec then
    match s.rules.render vars spec with
    | .ok v => .ok (flatten s.split v)
    | .error e => .error (.unreadable spec e)
  else .ok (flatten s.split (.str spec))

/-- The roles of a value. -/
def resolveOne (template : Option String) (value : String) : Except Miss (List String) :=
  if (userOfRole? value).isSome then .ok [value]
  else
    match userForm? value with
    | some (what, argument) =>
      let user := match argument with
        | some a => s.directory.findUser? what a
        | none => s.submitter.bind s.directory.user?
      match user with
      | some u => .ok [userRole u.id]
      | none => .error (.user value template)
    | none =>
      match s.buckets.value? value with
      | some roles => .ok roles.items
      | none =>
        match s.directory.lookup? value with
        | some id => .ok [id]
        | none => .error (.role value template)

/-- The roles of all values that resolve, and the misses of the others. -/
def resolveValues (template : Option String) (values : List String) : List String × List Miss :=
  let results := values.map (s.resolveOne template)
  (distinctNames (results.flatMap fun r => match r with | .ok roles => roles | .error _ => []),
    results.filterMap fun r => match r with | .ok _ => none | .error miss => some miss)

/-- The roles of a specification and the misses among its values. -/
def resolve (vars : Variables) (spec : String) : List String × List Miss :=
  match s.expand vars spec with
  | .ok values => s.resolveValues (templateOf spec) values
  | .error miss => ([], [miss])

/-- The roles of a specification, of which at least one must be there if anything is missed. -/
def resolveSome (vars : Variables) (spec : String) : Except Miss (List String) :=
  match s.resolve vars spec with
  | ([], miss :: _) => .error miss
  | (roles, _) => .ok roles

/-- The user who is found by an identifier at the identity provider, else by address, else by name. -/
def findUser? (value : String) : Option User :=
  s.directory.findUser? .nameId value <|> s.directory.findUser? .email value
    <|> s.directory.findUser? .name value

/-- Adds users who are not yet in a list. -/
def addUsers (users more : List User) : List User :=
  more.foldl (fun seen u => if seen.any fun v => v.id = u.id then seen else seen ++ [u]) users

/-- The users behind a role. -/
def usersOfRole (role : String) : List User :=
  match userOfRole? role with
  | some id => (s.directory.user? id).toList
  | none => s.directory.members role

/-- The users behind roles, each of them once. -/
def usersOf (roles : List String) : List User :=
  roles.foldl (fun users role => addUsers users (s.usersOfRole role)) []

end Resolver
end Docket
