import Docket.Keyed
import Docket.Uuid

/-!
# The locks of records

At most one task at a time works on a record.  A task first reserves the lock of a record, which
makes a lock if there is none, then enters when nobody else is in, and leaves in the end.  Each of
these is one step, and the steps of different tasks may be interleaved in any way.

Locks are numbered as they are made.  A lock that nobody holds or waits for is dropped by whoever
looks at the locks next, so there are never more locks than tasks.
-/

namespace Docket

/-- What a task has to do with a lock. -/
structure Ticket where
  task : Nat
  lock : Nat
  /-- Whether the task holds the lock, or else waits for it. -/
  isIn : Bool
  deriving DecidableEq, Repr

/-- The lock of a record. -/
structure RecordLock where
  recordId : Uuid
  number : Nat
  deriving DecidableEq, Repr

/-- The locks of records and the tasks that hold them or wait for them. -/
structure Locks where
  byRecord : Keyed RecordLock.recordId
  tickets : List Ticket
  /-- The number of the next lock that is made. -/
  next : Nat
  deriving DecidableEq, Repr

namespace Locks

def empty : Locks := ⟨∅, [], 0⟩

/-- Whether a task holds a lock or waits for it. -/
def isWanted (locks : Locks) (number : Nat) : Bool := locks.tickets.any fun t => t.lock = number

def isHeld (locks : Locks) (number : Nat) : Bool :=
  locks.tickets.any fun t => t.lock = number && t.isIn

/-- Drops the locks that nobody wants. -/
def sweep (locks : Locks) : Locks :=
  { locks with byRecord := locks.byRecord.filter fun l => locks.isWanted l.number }

/-- Lets a task wait for the lock of a record. -/
def reserve (task : Nat) (recordId : Uuid) (locks : Locks) : Locks :=
  let locks := locks.sweep
  match locks.byRecord.get? recordId with
  | some l => { locks with tickets := ⟨task, l.number, false⟩ :: locks.tickets }
  | none =>
    { byRecord := locks.byRecord.insert ⟨recordId, locks.next⟩
      tickets := ⟨task, locks.next, false⟩ :: locks.tickets
      next := locks.next + 1 }

/-- Lets a task into the lock that it waits for, unless the lock is held. -/
def enter? (task : Nat) (locks : Locks) : Option Locks :=
  match locks.tickets.find? fun t => t.task = task && !t.isIn with
  | some t =>
    if locks.isHeld t.lock then none
    else some { locks with
      tickets := locks.tickets.map fun u => if u = t then { u with isIn := true } else u }
  | none => none

def leave (task : Nat) (locks : Locks) : Locks :=
  { locks with tickets := locks.tickets.filter fun t => t.task ≠ task }

/-- The number of records whose locks are wanted. -/
def size (locks : Locks) : Nat := locks.sweep.byRecord.size

/-- Counts the records whose locks are wanted, and drops the other locks. -/
def count (locks : Locks) : Nat × Locks := (locks.size, locks.sweep)

end Locks
end Docket
