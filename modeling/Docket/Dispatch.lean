import Docket.Expression.Compare
import Docket.Record

/-!
# Dispatch

A dispatch routes roles into a function of the workflow.  Its rules are tried in order against the
value of its variable, and the first that matches names the roles.  What it does to the roles of the
function is set algebra: they are replaced, united with the new ones, or lose them.  A function
without roles has no entry.
-/

namespace Docket

/-- Whether one value is a number and the other a text. -/
def isNumberAndText : Json → Json → Bool
  | .num _, .str _ | .str _, .num _ => true
  | _, _ => false

/-- Whether a single value selects a rule: it is equal to the rule's, or, with coercion, one is a
number, the other a text, and the texts agree. -/
def scalarMatches (coercion : Bool) (value literal : Json) : Bool :=
  value.equal literal
    || (coercion && (isNumberAndText value literal && value.text = literal.text))

/-- Whether the value of a dispatch selects a rule; a list does if one of its items does. -/
def ruleMatches (coercion : Bool) (value literal : Json) : Bool :=
  match value with
  | .arr items => items.any fun v => scalarMatches coercion v literal
  | v => scalarMatches coercion v literal

namespace Buckets

def rolesOf (buckets : Buckets) (function : String) : NameSet :=
  (buckets.value? function).getD ∅

/-- Routes roles into a function. -/
def dispatch (buckets : Buckets) (function : String) (mode : DispatchMode) (roles : List String) :
    Buckets :=
  match mode with
  | .set => Table.set function (Keyed.ofList roles) buckets
  | .add => Table.set function ((buckets.rolesOf function).addAll roles) buckets
  | .remove =>
    match buckets.value? function with
    | some held =>
      let left := held.eraseAll roles
      if left.isEmpty then buckets.erase function else Table.set function left buckets
    | none => buckets

end Buckets
end Docket
