import Docket.Workflow

/-!
# Marked statuses

A jump may mark the status that it leaves, and a jump to `_previous` comes back to the status that
was marked last.  The marks form a stack, and with nothing marked a jump back stays where it is.
-/

namespace Docket

/-- The marked statuses, the one marked last first. -/
abbrev Marks := List String

/-- Where a jump leads. -/
inductive Destination where
  | status (id : String)
  /-- Nowhere: there is no mark to go back to. -/
  | stay
  deriving DecidableEq, Repr

namespace Marks

/-- Where a jump from a status leads, and the marks after it. -/
def resolve (marks : Marks) (current target : String) (mark : Bool) : Marks × Destination :=
  if target = previous then
    match marks with
    | s :: rest => (rest, .status s)
    | [] => ([], .stay)
  else (if mark then current :: marks else marks, .status target)

theorem resolve_previous_nil (current : String) (mark : Bool) :
    resolve [] current previous mark = ([], .stay) := rfl

theorem resolve_previous_cons (s current : String) (marks : Marks) (mark : Bool) :
    resolve (s :: marks) current previous mark = (marks, .status s) := rfl

theorem resolve_of_ne {target : String} (h : target ≠ previous) (marks : Marks) (current : String)
    (mark : Bool) :
    resolve marks current target mark =
      (if mark then current :: marks else marks, .status target) := if_neg h

end Marks
end Docket
