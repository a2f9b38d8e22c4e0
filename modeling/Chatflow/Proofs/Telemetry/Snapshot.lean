import Chatflow.Telemetry.Snapshot
import Mathlib.Data.List.Induction

/-!
# What the statistics count

Every number of a snapshot is raised by an event or left alone by it. So the numbers of a run of
events are the numbers of events of some kinds in it: `Snapshot.ofEvents_eq_countP` says so for any
of them, and one lemma for each says which events it counts.
-/

namespace Chatflow

/-! ### Counts under keys -/

theorem StatsKind.name_inj {k k' : StatsKind} : k.name = k'.name ↔ k = k' := by
  cases k <;> cases k' <;> decide

theorem Dict.find?_bump (counts : Dict Nat) (key k : String) :
    ((counts.bump key).find? k).getD 0 =
      (counts.find? k).getD 0 + if k = key then 1 else 0 := by
  rw [bump, find?_insert]
  split
  · rename_i hk
    rw [hk, Option.getD_some]
  · rw [Nat.add_zero]

namespace Telemetry

namespace Event

/-- Whether an event is an entry of a kind. -/
def isEntry (kind : StatsKind) : Event → Bool
  | .entry k _ => k = kind
  | _ => false

/-- Whether a message was sent. -/
def isMessage : Event → Bool
  | .messageSent _ _ _ => true
  | _ => false

/-- Whether a block asked again. -/
def isLocalFallback : Event → Bool
  | .blockTriggered _ fallback => fallback
  | _ => false

/-- Whether no block answered. -/
def isGlobalFallback : Event → Bool
  | .globalFallback _ => true
  | _ => false

end Event

namespace Snapshot

/-! ### One event -/

/-- What is counted after some events is the count of one more. -/
theorem ofEvents_concat (events : List Event) (e : Event) :
    ofEvents (events ++ [e]) = (ofEvents events).record e :=
  List.foldl_append

theorem total_record (s : Snapshot) (e : Event) (kind : StatsKind) :
    (s.record e).total kind = s.total kind + if e.isEntry kind then 1 else 0 := by
  cases e with
  | entry k label =>
    have hk : kind.name = k.name ↔ k = kind := StatsKind.name_inj.trans eq_comm
    have hbump := s.totals.find?_bump k.name kind.name
    simpa [record, total, Event.isEntry, hk] using hbump
  | conversationEnd | messageSent | blockTriggered | globalFallback => rfl

theorem messagesSent_record (s : Snapshot) (e : Event) :
    (s.record e).messagesSent = s.messagesSent + if e.isMessage then 1 else 0 := by
  cases e <;> rfl

theorem localFallbacks_record (s : Snapshot) (e : Event) :
    (s.record e).localFallbacks = s.localFallbacks + if e.isLocalFallback then 1 else 0 := by
  cases e <;> rfl

theorem globalFallbacks_record (s : Snapshot) (e : Event) :
    (s.record e).globalFallbacks = s.globalFallbacks + if e.isGlobalFallback then 1 else 0 := by
  cases e <;> rfl

/-! ### Many events -/

/-- **A number that an event raises by one or leaves alone** is the number of events that raise
it. -/
theorem ofEvents_eq_countP {f : Snapshot → Nat} {p : Event → Bool} (hempty : f empty = 0)
    (hrecord : ∀ s e, f (s.record e) = f s + if p e then 1 else 0) (events : List Event) :
    f (ofEvents events) = events.countP p := by
  induction events using List.reverseRecOn with
  | nil => exact hempty
  | append_singleton events e ih =>
    rw [ofEvents_concat, hrecord, ih, List.countP_append, List.countP_singleton]

theorem total_ofEvents (events : List Event) (kind : StatsKind) :
    (ofEvents events).total kind = events.countP (Event.isEntry kind) :=
  ofEvents_eq_countP (f := fun s => s.total kind) rfl (fun s e => s.total_record e kind) events

theorem messagesSent_ofEvents (events : List Event) :
    (ofEvents events).messagesSent = events.countP Event.isMessage :=
  ofEvents_eq_countP rfl messagesSent_record events

theorem localFallbacks_ofEvents (events : List Event) :
    (ofEvents events).localFallbacks = events.countP Event.isLocalFallback :=
  ofEvents_eq_countP rfl localFallbacks_record events

theorem globalFallbacks_ofEvents (events : List Event) :
    (ofEvents events).globalFallbacks = events.countP Event.isGlobalFallback :=
  ofEvents_eq_countP rfl globalFallbacks_record events

end Snapshot

end Telemetry

end Chatflow
