import Docket.Expression.Rules

/-!
# Evaluation with caches

An evaluator reads each source once and keeps the trees of the sources it has read, and the same
for templates.  A cache holds at most its capacity, and at least one entry: when it is full it is
emptied before the next entry is kept.  Each entry has a serial number, the count of the entries
kept before it, which tells an entry that was kept all along from one that was read again.

What an evaluator answers does not depend on its caches; `Rules` gives the same answers without
them.
-/

namespace Docket.Expression

/-- Something that a cache keeps for a source. -/
structure Entry (α : Type) where
  source : String
  value : α
  serial : Nat

/-- The values kept for sources. -/
structure Cache (α : Type) where
  entries : List (Entry α)
  capacity : Nat
  inserted : Nat

namespace Cache

variable {α : Type}

def empty (capacity : Nat) : Cache α := ⟨[], max capacity 1, 0⟩

def get? (cache : Cache α) (source : String) : Option (Entry α) :=
  cache.entries.find? (·.source == source)

def size (cache : Cache α) : Nat := cache.entries.length

/-- Keeps a value for a source, in an emptied cache if it was full. -/
def insert (cache : Cache α) (source : String) (value : α) : Entry α × Cache α :=
  let entry : Entry α := ⟨source, value, cache.inserted⟩
  let kept := if cache.capacity ≤ cache.size then []
    else cache.entries.filter (·.source != source)
  (entry, { cache with entries := entry :: kept, inserted := cache.inserted + 1 })

end Cache

/-- Rules with caches of what was read under them. -/
structure Evaluator where
  rules : Rules
  expressions : Cache Expression
  templates : Cache (List Part)

namespace Evaluator

/-- How many expressions an evaluator keeps unless told otherwise. -/
def defaultCapacity : Nat := 1024

/-- An evaluator that has read nothing yet. -/
def ofRules (rules : Rules) (capacity : Nat) : Evaluator :=
  ⟨rules, .empty capacity, .empty capacity⟩

/-- The entry of a source, read now if it is not kept. -/
def validate (ev : Evaluator) (source : String) : Except Error (Entry Expression) × Evaluator :=
  match ev.expressions.get? source with
  | some entry => (.ok entry, ev)
  | none =>
    match ev.rules.compile source with
    | .error e => (.error e, ev)
    | .ok tree =>
      let (entry, cache) := ev.expressions.insert source tree
      (.ok entry, { ev with expressions := cache })

/-- Reads the pieces of a template in order, each expression through the cache. -/
def compileParts (ev : Evaluator) : List Segment → Except Error (List Part) × Evaluator
  | [] => (.ok [], ev)
  | .text t :: rest =>
    match ev.compileParts rest with
    | (.ok parts, ev) => (.ok (.text t :: parts), ev)
    | (.error e, ev) => (.error e, ev)
  | .placeholder source column :: rest =>
    match ev.validate source with
    | (.error e, ev) => (.error (e.shift column), ev)
    | (.ok entry, ev) =>
      match ev.compileParts rest with
      | (.ok parts, ev) => (.ok (.expr source entry.value :: parts), ev)
      | (.error e, ev) => (.error e, ev)

/-- The entry of a template, read now if it is not kept. -/
def compileTemplate (ev : Evaluator) (template : String) :
    Except Error (Entry (List Part)) × Evaluator :=
  match ev.templates.get? template with
  | some entry => (.ok entry, ev)
  | none =>
    match splitTemplate template with
    | .error e => (.error e, ev)
    | .ok segments =>
      match ev.compileParts segments with
      | (.error e, ev) => (.error e, ev)
      | (.ok parts, ev) =>
        let (entry, cache) := ev.templates.insert template parts
        (.ok entry, { ev with templates := cache })

def evaluate (ev : Evaluator) (vars : Variables) (source : String) :
    Except Error Json × Evaluator :=
  match ev.validate source with
  | (.error e, ev) => (.error e, ev)
  | (.ok entry, ev) => (entry.value.eval vars ev.rules.functions, ev)

/-- Whether the value of a source is true, or a default where there is one and the source fails. -/
def condition (ev : Evaluator) (vars : Variables) (source : String) (default : Option Bool) :
    Except Error Bool × Evaluator :=
  match ev.evaluate vars source with
  | (.ok v, ev) => (.ok v.truthy, ev)
  | (.error e, ev) =>
    match default with
    | some b => (.ok b, ev)
    | none => (.error e, ev)

/-- Whether the value of a source is true, or else a default together with the error to report. -/
def conditionOr (ev : Evaluator) (vars : Variables) (source : String) (default : Bool) :
    (Bool × Option Error) × Evaluator :=
  match ev.condition vars source none with
  | (.ok b, ev) => ((b, none), ev)
  | (.error e, ev) => ((default, some e), ev)

/-- The value of a text: of a template if it has marks of one, else the text itself. -/
def render (ev : Evaluator) (vars : Variables) (text : String) : Except Error Json × Evaluator :=
  if isTemplate text then
    match ev.compileTemplate text with
    | (.error e, ev) => (.error e, ev)
    | (.ok entry, ev) => (renderTemplate vars ev.rules.functions entry.value, ev)
  else (.ok (.str text), ev)

/-- The text of the value of a text. -/
def renderText (ev : Evaluator) (vars : Variables) (text : String) :
    Except Error String × Evaluator :=
  match ev.render vars text with
  | (.ok v, ev) => (.ok v.text, ev)
  | (.error e, ev) => (.error e, ev)

end Evaluator
end Docket.Expression
