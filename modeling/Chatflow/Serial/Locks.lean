import Chatflow.Dict

/-!
# The locks of senders

Two turns of one sender must not run at once: both would read the same conversation, and what one
of them does would be lost. So a call that runs a turn takes the lock of its sender first. A lock
is made for the first call that asks for it, and taken out of the table by the last call that
refers to it; a later call then finds none and makes another.

A call takes five steps, and those of several calls may come in any order between each other:

* it looks its sender up in the table, and puts a lock there if there is none;
* it acquires the lock, once no other call runs under it;
* it runs its turn and releases the lock;
* it no longer refers to the lock;
* it takes the lock of its sender out of the table, if no call refers to that.

`Locks.advance?` is the next step of a call, so that a list of calls says how their steps are
interleaved.
-/

namespace Chatflow

namespace Serial

/-- How far a call is, with the lock that it refers to. -/
inductive Stage where
  /-- It has not begun. -/
  | new
  /-- It waits for the lock. -/
  | waiting (lock : Nat)
  /-- It holds the lock and runs its turn. -/
  | running (lock : Nat)
  /-- It has released the lock. -/
  | released (lock : Nat)
  /-- It no longer refers to a lock. -/
  | leaving
  /-- It is done. -/
  | gone
  deriving DecidableEq, Repr

/-- The lock that a call refers to. -/
def Stage.lock? : Stage → Option Nat
  | .waiting lock | .running lock | .released lock => some lock
  | .new | .leaving | .gone => none

/-- A call that runs a turn of a sender. -/
structure Call where
  /-- The sender. -/
  sender : String
  /-- How far the call is. -/
  stage : Stage
  deriving DecidableEq, Repr

/-- The table of locks and the calls that use it. -/
structure Locks where
  /-- The lock of each sender. -/
  table : Dict Nat
  /-- How many locks were made, which is also the next one. -/
  made : Nat
  /-- The calls. -/
  calls : List Call
  deriving DecidableEq

namespace Locks

/-- The locks before any of the calls for some senders has begun. -/
def start (senders : List String) : Locks := ⟨.empty, 0, senders.map (⟨·, .new⟩)⟩

/-- The number of senders with a turn that runs or waits. -/
def size (l : Locks) : Nat := l.table.size

/-- Whether no sender has one. -/
def isEmpty (l : Locks) : Bool := l.table.isEmpty

/-- How far a call is. -/
def stage? (l : Locks) (call : Nat) : Option Stage := l.calls[call]?.map (·.stage)

/-- Whether a call refers to a lock. -/
def isReferred (l : Locks) (lock : Nat) : Bool := l.calls.any (·.stage.lock? = some lock)

/-- Whether a call runs its turn under a lock. -/
def isHeld (l : Locks) (lock : Nat) : Bool := l.calls.any (·.stage = .running lock)

/-- The locks with a call at another stage. -/
def move (l : Locks) (call : Nat) (stage : Stage) : Locks :=
  { l with calls := l.calls.modify call fun c => { c with stage := stage } }

/-- A call finds the lock of its sender, or makes it. -/
def fetch (l : Locks) (call : Nat) (sender : String) : Locks :=
  match l.table.find? sender with
  | some lock => l.move call (.waiting lock)
  | none =>
    { l with table := l.table.insert sender l.made, made := l.made + 1 }.move call (.waiting l.made)

/-- A call takes the lock of its sender out of the table, unless a call refers to that lock. -/
def prune (l : Locks) (call : Nat) (sender : String) : Locks :=
  let table :=
    match l.table.find? sender with
    | some lock => if l.isReferred lock then l.table else l.table.erase sender
    | none => l.table
  { l with table := table }.move call .gone

/-- The next step of a call, if it can take one: a call that waits cannot while another runs under
its lock, and one that is done takes none. -/
def advance? (l : Locks) (call : Nat) : Option Locks :=
  match l.calls[call]? with
  | none | some ⟨_, .gone⟩ => none
  | some ⟨sender, .new⟩ => some (l.fetch call sender)
  | some ⟨_, .waiting lock⟩ => if l.isHeld lock then none else some (l.move call (.running lock))
  | some ⟨_, .running lock⟩ => some (l.move call (.released lock))
  | some ⟨_, .released _⟩ => some (l.move call .leaving)
  | some ⟨sender, .leaving⟩ => some (l.prune call sender)

/-- The locks after a call took its next step, if it could. -/
def advance (l : Locks) (call : Nat) : Locks := (l.advance? call).getD l

end Locks

end Serial

end Chatflow
