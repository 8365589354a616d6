import Docket.Expression.Error
import Docket.Text.Blank

/-!
# Templates

A template is a text with placeholders, expressions between double braces.  `splitTemplate` cuts a
text into plain pieces and placeholders; the mark of statement templates, a brace and a percent
sign, is refused wherever it stands.  Positions within a template are counted in bytes.
-/

namespace Docket.Expression

/-- A piece of a template: plain text, or the source of an expression, without the blanks around it,
and the position of its opening braces. -/
inductive Segment where
  | text (text : String)
  | placeholder (source : String) (column : Nat)
  deriving DecidableEq, Repr

/-- The text before the first place where two characters stand side by side, and the text after
them. -/
def cut (a b : Char) : List Char → Option (List Char × List Char)
  | [] => none
  | c :: rest =>
    match rest with
    | [] => none
    | d :: after =>
      if c = a ∧ d = b then some ([], after)
      else (cut a b rest).map fun (before, after) => (c :: before, after)

theorem cut_append {a b : Char} {s before after : List Char}
    (h : cut a b s = some (before, after)) : s = before ++ a :: b :: after := by
  induction s generalizing before with
  | nil => simp [cut] at h
  | cons c rest ih =>
    cases rest with
    | nil => simp [cut] at h
    | cons d rest =>
      simp only [cut] at h
      split at h
      · next hc =>
        simp only [Option.some.injEq, Prod.mk.injEq] at h
        obtain ⟨rfl, rfl⟩ := h
        simp [hc.1, hc.2]
      · simp only [Option.map_eq_some_iff, Prod.exists, Prod.mk.injEq] at h
        obtain ⟨u, v, hu, rfl, rfl⟩ := h
        rw [ih hu]
        rfl

theorem cut_lt {a b : Char} {s before after : List Char}
    (h : cut a b s = some (before, after)) : after.length < s.length := by
  have := congrArg List.length (cut_append h)
  simp only [List.length_append, List.length_cons] at this
  omega

/-- The length of a text in bytes. -/
def bytes : List Char → Nat
  | [] => 0
  | c :: rest => c.utf8Size + bytes rest

theorem bytes_append (s t : List Char) : bytes (s ++ t) = bytes s + bytes t := by
  induction s with
  | nil => simp [bytes]
  | cons c rest ih => simp [bytes, ih, Nat.add_assoc]

/-- Whether a text has marks of a template. -/
def isTemplate (text : String) : Bool :=
  (cut '\x7b' '\x7b' text.toList).isSome || (cut '\x7b' '%' text.toList).isSome

/-- The pieces of the rest of a template, which starts at the given position. -/
def splitFrom (offset : Nat) (s : List Char) : Except Error (List Segment) :=
  match _h : cut '\x7b' '\x7b' s with
  | none => .ok (if s.isEmpty then [] else [.text (String.ofList s)])
  | some (before, after) =>
    let start := offset + bytes before
    match _h' : cut '\x7d' '\x7d' after with
    | none => .error (.parse start .unterminatedPlaceholder)
    | some (inside, rest) =>
      let source := Text.trim inside
      if source.isEmpty then .error (.parse start .emptyPlaceholder)
      else
        match splitFrom (start + 2 + bytes inside + 2) rest with
        | .error e => .error e
        | .ok segments =>
          let segments := .placeholder (String.ofList source) start :: segments
          .ok (if before.isEmpty then segments else .text (String.ofList before) :: segments)
termination_by s.length
decreasing_by
  exact Nat.lt_trans (cut_lt _h') (cut_lt _h)

def splitTemplate (template : String) : Except Error (List Segment) :=
  match cut '\x7b' '%' template.toList with
  | some (before, after) =>
    .error (.forbidden (String.ofList ('\x7b' :: '%' :: after)) (bytes before))
  | none => splitFrom 0 template.toList

end Docket.Expression
