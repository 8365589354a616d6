import Docket.Text.Blank
import Docket.Text.Digits
import Docket.Web.Percent

/-!
# Addresses of services

An address has a scheme, an authority and a path, and perhaps a query and a fragment.  The path is a
list of segments; `/` is the path with one empty segment.  Reading an address brings it into its
normal form: the scheme and the host in lower case, no number after the host that the scheme implies,
no dot segments, and encoded what may not stand.

`Address.extend` appends segments to a path.  A segment is data: whatever stands in it is encoded,
so it cannot end the path or start another segment.  A dot segment would lead back, and is left out.
-/

namespace Docket

/-- The address of a resource. -/
structure Address where
  scheme : String
  /-- Who and where the service is, if the scheme has it. -/
  authority : Option String
  path : List String
  query : Option String
  fragment : Option String
  deriving DecidableEq, Repr

namespace Address

/-- Why a text is not the address of something with a path. -/
inductive Error where
  | relative
  | emptyHost
  | invalidNumber
  | invalidHost
  /-- The address names something that has no path. -/
  | opaquePath
  deriving DecidableEq, Repr

def Error.message : Error → String
  | .relative => "relative URL without a base"
  | .emptyHost => "empty host"
  | .invalidNumber => "invalid port number"
  | .invalidHost => "invalid domain character"
  | .opaquePath => "cannot take a path"

/-! ## Characters -/

/-- Whether a character is dropped from an address. -/
def isDropped (c : Char) : Bool := c == '\t' || c == '\n' || c == '\r'

/-- Whether a character is a printable one of ASCII. -/
def isPrintable (c : Char) : Bool := 0x20 ≤ c.toNat && c.toNat < 0x7f

/-- Whether a character may stand in a fragment. -/
def inFragment (c : Char) : Bool := isPrintable c && !" \"<>`".contains c

/-- Whether a character may stand in a path. -/
def inPath (c : Char) : Bool := inFragment c && !"#?\x7b\x7d".contains c

/-- Whether a character may stand in a segment that is data. -/
def inSegment (c : Char) : Bool := inPath c && !"/%\\".contains c

/-- Whether a character may stand in a query. -/
def inQuery (c : Char) : Bool := isPrintable c && !" \"#<>'".contains c

/-- The schemes of the web with the numbers of their services. -/
def webSchemes : List (String × Nat) :=
  [("http", 80), ("https", 443), ("ws", 80), ("wss", 443), ("ftp", 21)]

/-- Whether a scheme is one of the web. -/
def isWeb (scheme : String) : Bool := webSchemes.any fun s => s.1 = scheme

/-! ## Paths -/

/-- Whether a segment stands for the place where it is. -/
def isHere (segment : String) : Bool := [".", "%2e", "%2E"].contains segment

/-- Whether a segment leads back. -/
def isBack (segment : String) : Bool :=
  ["..", ".%2e", ".%2E", "%2e.", "%2E.", "%2e%2e", "%2e%2E", "%2E%2e", "%2E%2E"].contains segment

/-- The segments of a path without those that stand for a place, given the segments before in
reverse.  At the end such a segment leaves an empty one. -/
def settle : (before : List String) → List String → List String
  | before, [] => before.reverse
  | before, [s] =>
    if isBack s then ("" :: before.drop 1).reverse
    else if isHere s then ("" :: before).reverse
    else (s :: before).reverse
  | before, s :: rest =>
    if isBack s then settle (before.drop 1) rest
    else if isHere s then settle before rest
    else settle (s :: before) rest

/-- A path without its last segment, if that is empty and not the only one. -/
def trimPath (path : List String) : List String :=
  if path.length > 1 ∧ path.getLast? = some "" then path.dropLast else path

/-- A segment as it stands in a path. -/
def encodeSegment (segment : String) : String :=
  String.ofList (Percent.encode inSegment (segment.toList.filter fun c => !isDropped c))

/-- Appends a segment to a path; an empty path has no segment that could stay. -/
def pushSegment (path : List String) (segment : String) : List String :=
  if segment = "." ∨ segment = ".." then path
  else (if path = [""] then [] else path) ++ [encodeSegment segment]

/-- Appends segments to the path of an address, less an empty segment at its end. -/
def extend (a : Address) (segments : List String) : Address :=
  { a with path := segments.foldl pushSegment (trimPath a.path) }

/-- The path as it is asked for. -/
def pathText (a : Address) : String := "/" ++ "/".intercalate a.path

def write (a : Address) : String :=
  a.scheme ++ ":" ++ (match a.authority with | some h => "//" ++ h | none => "") ++ a.pathText ++
    (match a.query with | some q => "?" ++ q | none => "") ++
    (match a.fragment with | some f => "#" ++ f | none => "")

/-! ## Reading -/

/-- A text up to the first character of some kind, and the rest from there. -/
def upTo (p : Char → Bool) (s : List Char) : List Char × List Char := s.span fun c => !p c

/-- The scheme of an address in lower case, and what follows its colon. -/
def scheme? (s : List Char) : Option (String × List Char) :=
  match upTo (· == ':') s with
  | (c :: name, ':' :: rest) =>
    if c.isAlpha && name.all fun d => d.isAlphanum || "+-.".contains d then
      some ((String.ofList (c :: name)).toLower, rest)
    else none
  | _ => none

/-- The number of a service, unless it is the one that its scheme implies. -/
def readNumber (scheme : String) (digits : List Char) : Except Error (Option Nat) :=
  if digits.isEmpty then .ok none
  else if digits.all Text.isDigit then
    let n := Text.natOf digits
    if 65535 < n then .error .invalidNumber
    else if webSchemes.contains (scheme, n) then .ok none
    else .ok (some n)
  else .error .invalidNumber

/-- Whether a character may stand in the name of a host. -/
def inHost (c : Char) : Bool := isPrintable c && !" #/:<>?@[\\]^|%".contains c

/-- The host of a service in lower case; a numeric one with colons stands in brackets. -/
def readHost (host : List Char) : Except Error String :=
  match host with
  | [] => .error .emptyHost
  | '[' :: rest =>
    if rest.getLast? = some ']' ∧ rest.dropLast.all (fun c => c.isAlphanum || c == ':' || c == '.') then
      .ok (String.ofList host).toLower
    else .error .invalidHost
  | _ => if host.all inHost then .ok (String.ofList host).toLower else .error .invalidHost

/-- The host of an authority, and the number after its colon. -/
def splitNumber (s : List Char) : List Char × List Char :=
  match s with
  | '[' :: _ =>
    let (inner, rest) := upTo (· == ']') s
    (inner ++ rest.take 1, rest.drop 2)
  | _ =>
    let (host, rest) := upTo (· == ':') s
    (host, rest.drop 1)

/-- Reads who and where a service is. -/
def readAuthority (scheme : String) (s : List Char) : Except Error String := do
  let (reversed, user) := upTo (· == '@') s.reverse
  let user := user.reverse
  let (host, digits) := splitNumber reversed.reverse
  let host ← readHost host
  let number ← readNumber scheme digits
  return String.ofList user ++ host ++
    (match number with | some n => ":" ++ toString n | none => "")

/-- Splits a path at its separators. -/
def splitPath (isSeparator : Char → Bool) (s : List Char) : List (List Char) :=
  s.foldr
    (fun c parts =>
      if isSeparator c then [] :: parts
      else match parts with
        | part :: rest => (c :: part) :: rest
        | [] => [[c]])
    [[]]

/-- Reads a path, without the separator that it starts with. -/
def readPath (isSeparator : Char → Bool) (s : List Char) : List String :=
  settle [] ((splitPath isSeparator s).map fun part => String.ofList (Percent.encode inPath part))

/-- Reads a whole address. -/
def read? (text : String) : Except Error Address := do
  let isOuter (c : Char) : Bool := c.toNat ≤ 0x20
  let s := Text.trimOf isOuter text.toList
  match scheme? (s.filter fun c => !isDropped c) with
  | none => .error .relative
  | some (scheme, rest) =>
    let (rest, fragment) := upTo (· == '#') rest
    let (rest, query) := upTo (· == '?') rest
    let web := isWeb scheme
    let isSeparator (c : Char) : Bool := c == '/' || (web && c == '\\')
    let (authority, path) ←
      if web || "//".toList.isPrefixOf rest then
        let rest := if web then rest.dropWhile isSeparator else rest.drop 2
        let (host, path) := upTo isSeparator rest
        let authority ← readAuthority scheme host
        pure (some authority, path)
      else pure (none, rest)
    if authority.isNone ∧ ¬['/'].isPrefixOf path then .error .opaquePath
    return {
      scheme, authority
      path := readPath isSeparator (path.drop 1)
      query := if query.isEmpty then none
        else some (String.ofList (Percent.encode inQuery (query.drop 1)))
      fragment := if fragment.isEmpty then none
        else some (String.ofList (Percent.encode inFragment (fragment.drop 1))) }

end Address
end Docket
