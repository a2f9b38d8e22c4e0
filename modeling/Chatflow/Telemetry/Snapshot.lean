import Chatflow.Telemetry.Event

/-!
# Statistics

A `Snapshot` counts telemetry events: `record` takes in one, `ofEvents` a run of them.
-/

namespace Chatflow

/-- The counts with one more under a key. -/
def Dict.bump (counts : Dict Nat) (key : String) : Dict Nat :=
  counts.insert key ((counts.find? key).getD 0 + 1)

namespace Telemetry

/-- What was counted so far. -/
structure Snapshot where
  /-- The number of entries, by the names of their kinds. -/
  totals : Dict Nat
  /-- The number of entries, by the names of their kinds and their labels. -/
  labels : Dict (Dict Nat)
  /-- The number of messages sent. -/
  messagesSent : Nat
  /-- The number of conversations that ended. -/
  conversationsEnded : Nat
  /-- The number of those that ended on an error. -/
  conversationsFailed : Nat
  /-- How often a block asked again. -/
  localFallbacks : Nat
  /-- How often no block answered. -/
  globalFallbacks : Nat
  deriving DecidableEq

namespace Snapshot

/-- Nothing was counted yet. -/
def empty : Snapshot := ⟨.empty, .empty, 0, 0, 0, 0, 0⟩

/-- The counts after one more event. -/
def record (s : Snapshot) : Event → Snapshot
  | .entry kind label =>
    { s with
      totals := s.totals.bump kind.name
      labels :=
        s.labels.insert kind.name (((s.labels.find? kind.name).getD .empty).bump label) }
  | .conversationEnd _ error =>
    { s with
      conversationsEnded := s.conversationsEnded + 1
      conversationsFailed := s.conversationsFailed + if error.isSome then 1 else 0 }
  | .messageSent _ _ _ => { s with messagesSent := s.messagesSent + 1 }
  | .blockTriggered _ fallback =>
    { s with localFallbacks := s.localFallbacks + if fallback then 1 else 0 }
  | .globalFallback _ => { s with globalFallbacks := s.globalFallbacks + 1 }

/-- The counts after more events. -/
def recordAll (s : Snapshot) (events : List Event) : Snapshot := events.foldl record s

/-- The counts of some events. -/
def ofEvents (events : List Event) : Snapshot := empty.recordAll events

/-- The number of entries of a kind. -/
def total (s : Snapshot) (kind : StatsKind) : Nat := (s.totals.find? kind.name).getD 0

/-- The number of entries of a kind with a label. -/
def count (s : Snapshot) (kind : StatsKind) (label : String) : Nat :=
  ((s.labels.find? kind.name).bind (·.find? label)).getD 0

/-- A line on the counts. -/
def display (s : Snapshot) : String :=
  "Stats: " ++ toString s.messagesSent ++ " sent, " ++
  toString (s.total .newConversations) ++ " new / " ++
  toString (s.total .existingConversations) ++ " existing conversations, " ++
  toString s.conversationsEnded ++ " ended (" ++ toString s.conversationsFailed ++ " failed), " ++
  toString s.localFallbacks ++ " local / " ++ toString s.globalFallbacks ++ " global fallbacks"

/-- The JSON form of the counts. -/
def toJson (s : Snapshot) : Json :=
  .record [("totals", .ofDict (s.totals.map .nat)),
    ("labels", .ofDict (s.labels.map fun counts => .ofDict (counts.map .nat))),
    ("messages_sent", .nat s.messagesSent), ("conversations_ended", .nat s.conversationsEnded),
    ("conversations_failed", .nat s.conversationsFailed),
    ("local_fallbacks", .nat s.localFallbacks), ("global_fallbacks", .nat s.globalFallbacks),
    ("display", .str s.display)]

end Snapshot

end Telemetry

end Chatflow
