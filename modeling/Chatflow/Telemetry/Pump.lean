import Chatflow.Telemetry.Snapshot

/-!
# The telemetry pump

Events are queued by whoever emits them and counted one by one by the pump. Once it is cancelled
the pump may still count events as before, until it notices; from then on it counts what is left
in the queue, and stops when it finds none. What is emitted after that is dropped.

Each function is one step, and those of the pump and of the emitters may come in any order between
each other. `Pump.shutdown` cancels the pump and runs it to its end.
-/

namespace Chatflow

namespace Telemetry

/-- How far a pump is. -/
inductive Pump.Phase where
  | counting
  | draining
  | stopped
  deriving DecidableEq, Repr

/-- The queue and the counts of a pump. -/
structure Pump where
  /-- The events that wait to be counted, oldest first. -/
  queue : List Event
  /-- What was counted so far. -/
  counts : Snapshot
  /-- Whether the pump is asked to stop. -/
  cancelled : Bool
  /-- How far it is. -/
  phase : Pump.Phase
  deriving DecidableEq

namespace Pump

/-- A pump that has just been started. -/
def start : Pump := ⟨[], .empty, false, .counting⟩

/-- The pump after an event was emitted. -/
def emit (p : Pump) (e : Event) : Pump :=
  if p.phase = .stopped then p else { p with queue := p.queue ++ [e] }

/-- The pump after it counted the event that waited longest, if one waits and the pump has not
stopped. -/
def receive (p : Pump) : Pump :=
  match p.queue with
  | [] => p
  | e :: rest =>
    if p.phase = .stopped then p else { p with queue := rest, counts := p.counts.record e }

/-- The pump after it was asked to stop. -/
def cancel (p : Pump) : Pump := { p with cancelled := true }

/-- The pump after it looked whether it is asked to stop. -/
def notice (p : Pump) : Pump :=
  if p.cancelled && p.phase = .counting then { p with phase := .draining } else p

/-- The pump after it looked, while draining, whether anything is left to count. -/
def finish (p : Pump) : Pump :=
  if p.queue.isEmpty && p.phase = .draining then { p with phase := .stopped } else p

/-- The pump after it counted a number of events. -/
def receiveMany (p : Pump) : Nat → Pump
  | 0 => p
  | n + 1 => p.receive.receiveMany n

/-- The pump after it was cancelled, counted what was left and stopped, while nobody emits. -/
def shutdown (p : Pump) : Pump := (p.cancel.notice.receiveMany p.queue.length).finish

end Pump

end Telemetry

end Chatflow
