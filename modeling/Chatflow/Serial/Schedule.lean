import Chatflow.Serial.Locks

/-!
# Calls in rounds

A schedule that gives every call its chance in each round, in order. A call goes on until its turn
pauses or it has to wait for its lock; the turn pauses a given number of times before it is done.
`Schedule.marks` tells what happens and how many senders have a turn at that moment.
-/

namespace Chatflow

namespace Serial

/-- What happens to a turn. -/
inductive Progress where
  | begun
  | resumed
  | done
  deriving DecidableEq, Repr

/-- Something that happens to the turn of a call, and the number of senders with a turn that runs
or waits right after it. -/
structure Mark where
  call : Nat
  progress : Progress
  size : Nat
  deriving DecidableEq, Repr

/-- Calls under way. -/
structure Schedule where
  /-- Their locks. -/
  locks : Locks
  /-- How many more times the turn of each call pauses. -/
  pauses : List Nat
  deriving DecidableEq

namespace Schedule

/-- The schedule of some turns, each with its sender and the number of times that it pauses. -/
def start (turns : List (String × Nat)) : Schedule :=
  ⟨.start (turns.map (·.1)), turns.map (·.2)⟩

/-- What happens to the turn of a call now. -/
def mark (s : Schedule) (call : Nat) (progress : Progress) : Mark :=
  ⟨call, progress, s.locks.size⟩

/-- A call whose turn runs pauses, or is done and leaves. -/
def pause (s : Schedule) (call : Nat) : List Mark × Schedule :=
  match s.pauses[call]? with
  | some (n + 1) => ([], { s with pauses := s.pauses.set call n })
  | some 0 | none =>
    let s := { s with locks := ((s.locks.advance call).advance call).advance call }
    ([s.mark call .done], s)

/-- A call begins its turn, unless it has to wait. -/
def enter (s : Schedule) (call : Nat) : List Mark × Schedule :=
  match s.locks.advance? call with
  | none => ([], s)
  | some locks =>
    let s := { s with locks := locks }
    let (marks, next) := s.pause call
    (s.mark call .begun :: marks, next)

/-- A call is given its chance. -/
def poll (s : Schedule) (call : Nat) : List Mark × Schedule :=
  match s.locks.stage? call with
  | some .new => { s with locks := s.locks.advance call }.enter call
  | some (.waiting _) => s.enter call
  | some (.running _) =>
    let (marks, next) := s.pause call
    (s.mark call .resumed :: marks, next)
  | some (.released _) | some .leaving | some .gone | none => ([], s)

/-- Some calls are given their chance, one after the other. -/
def pollAll (s : Schedule) : List Nat → List Mark × Schedule
  | [] => ([], s)
  | call :: rest =>
    let (marks, next) := s.poll call
    let (more, last) := next.pollAll rest
    (marks ++ more, last)

/-- A number of rounds. -/
def rounds (s : Schedule) : Nat → List Mark × Schedule
  | 0 => ([], s)
  | n + 1 =>
    let (marks, next) := s.pollAll (List.range s.pauses.length)
    let (more, last) := next.rounds n
    (marks ++ more, last)

/-- All calls until they are done. In each round the first call that is not done begins or resumes
its turn, so that there are no more rounds than beginnings and pauses. -/
def run (s : Schedule) : List Mark × Schedule :=
  s.rounds (s.pauses.foldr (fun n total => n + 1 + total) 0)

end Schedule

end Serial

end Chatflow
