/-!
# Media types

A media type says what a body is made of: a main type, a subtype, and perhaps a suffix after the last
plus sign of the subtype, all in any case.  Parameters may follow, each after a semicolon; a text in
which one of them is malformed names no media type at all.
-/

namespace Docket

/-- A media type without its parameters, in lower case. -/
structure MediaType where
  main : String
  sub : String
  suffix : Option String
  deriving DecidableEq, Repr

namespace MediaType

/-- Whether a character may stand in a name. -/
def inName (c : Char) : Bool := c.isAlphanum || "!#$%&'*+-.^_\x60|~".contains c

/-- Whether a character may stand between quotes. -/
def inQuotes (c : Char) : Bool := 0x20 ≤ c.toNat && c.toNat < 0x7f

/-- What follows the value of a parameter and the semicolon after it.  A value is a name, empty only
at the end, or stands between quotes and is not empty; its first character may be a quote itself. -/
def afterValue? (s : List Char) : Option (List Char) :=
  match s with
  | '"' :: c :: rest =>
    let inside := rest.takeWhile (· != '"')
    if inQuotes c && inside.all inQuotes then
      match rest.dropWhile (· != '"') with
      | _ :: rest =>
        match rest.dropWhile (· == ' ') with
        | [] => some []
        | ';' :: rest => some rest
        | _ => none
      | [] => none
    else none
  | s =>
    match s.dropWhile inName with
    | [] => some []
    | ';' :: rest => if s.head? = some ';' then none else some rest
    | _ => none

/-- Whether a text is a list of parameters, of which there are at most as many as `fuel`. -/
def areParameters : (fuel : Nat) → List Char → Bool
  | 0, _ => false
  | fuel + 1, s =>
    match s.dropWhile (· == ' ') with
    | [] => true
    | c :: rest =>
      match rest.dropWhile inName with
      | '=' :: rest => inName c && (afterValue? rest).any (areParameters fuel)
      | _ => false

/-- The media type of a name of a subtype. -/
def ofNames (main sub : List Char) : MediaType :=
  match sub.reverse.span (· != '+') with
  | (suffix, _ :: c :: name) =>
    ⟨String.ofList main, String.ofList (c :: name).reverse, some (String.ofList suffix.reverse)⟩
  | _ => ⟨String.ofList main, String.ofList sub, none⟩

def read? (text : String) : Option MediaType :=
  let (names, parameters) := text.toList.span (· != ';')
  match (names.map Char.toLower).span (· != '/') with
  | (main, '/' :: sub) =>
    if !main.isEmpty && main.all inName && !sub.isEmpty && sub.all inName &&
        areParameters (parameters.length + 1) (parameters.drop 1) then
      some (ofNames main sub)
    else none
  | _ => none

/-- Whether a body is JSON, or something that is written as JSON. -/
def isJson (t : MediaType) : Bool :=
  t.main = "application" && (t.sub = "json" || t.suffix = some "json")

example : ["application/json", "Application/JSON; charset=utf-8", "application/problem+json",
    "application/json;", "application/json; a=\"b;c\" ; d="].all
    (fun s => (read? s).any isJson) = true := by
  cbv

example : ["text/json", "application/json x", "application/json;charset", "application/+json",
    "application/json; a=;b=c", "application/json; a=\"\"", "application/json ;a=b", ""].all
    (fun s => !(read? s).any isJson) = true := by
  cbv

end MediaType
end Docket
