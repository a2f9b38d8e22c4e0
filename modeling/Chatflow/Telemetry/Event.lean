import Chatflow.Conversation

/-!
# Telemetry events

What the engine reports about its work: entries of the statistics, conversations that ended,
messages that were sent, and how they came about.
-/

namespace Chatflow

/-- What an entry of the statistics counts. -/
inductive StatsKind where
  /-- A block was visited. -/
  | popular
  /-- A conversation began. -/
  | newConversations
  /-- A conversation went on. -/
  | existingConversations
  /-- A message was sent by the bot. -/
  | outgoing
  /-- A message was sent. -/
  | allMessages
  deriving DecidableEq, Repr

namespace StatsKind

/-- All kinds. -/
def all : List StatsKind :=
  [.popular, .newConversations, .existingConversations, .outgoing, .allMessages]

/-- The name of a kind. -/
def name : StatsKind → String
  | .popular => "popular"
  | .newConversations => "new_conversations"
  | .existingConversations => "existing_conversations"
  | .outgoing => "outgoing"
  | .allMessages => "all_messages"

/-- The label of entries that need none of their own. -/
def label : StatsKind → String
  | .popular => "Popular blocks"
  | .newConversations => "New conversations"
  | .existingConversations => "Existing conversations"
  | .outgoing => "Outgoing"
  | .allMessages => "All Messages"

/-- Reads a kind. -/
def ofJson? : Decoder StatsKind := Decode.choice (all.map fun k => (k.name, k))

end StatsKind

namespace Telemetry

/-- Something that the engine reports. -/
inductive Event where
  /-- An entry of the statistics. -/
  | entry (kind : StatsKind) (label : String)
  /-- A conversation ended, as it was then, with what went wrong. -/
  | conversationEnd (conversation : Conversation) (error : Option String)
  /-- A message was sent to a subscriber, who is handed over to an agent if one is named. -/
  | messageSent (mid recipient : String) (handover : Option String)
  /-- A block was sent, in answer or to ask again. -/
  | blockTriggered (block : String) (fallback : Bool)
  /-- No block answers the event of a subscriber. -/
  | globalFallback (sender : String)
  deriving DecidableEq

namespace Event

/-- An entry of the statistics under the label of its kind. -/
def count (kind : StatsKind) : Event := .entry kind kind.label

/-- The name under which an event is published. -/
def hook : Event → String
  | .entry _ _ => "stats:entry"
  | .conversationEnd _ _ => "conversation:end"
  | .messageSent _ _ _ => "message:sent"
  | .blockTriggered _ false => "analytics:block"
  | .blockTriggered _ true => "analytics:fallback-local"
  | .globalFallback _ => "analytics:fallback-global"

/-- The JSON form of what an event says. -/
def details : Event → List (String × Json)
  | .entry kind label => [("kind", .str kind.name), ("label", .str label)]
  | .conversationEnd c error =>
    [("conversation", .str c.id), ("active", .bool c.active),
      ("current", Json.orNull (fun b => .str b.id) c.current), ("error", Json.orNull .str error)]
  | .messageSent mid recipient handover =>
    [("mid", .str mid), ("recipient", .str recipient), ("handover", Json.orNull .str handover)]
  | .blockTriggered block _ => [("block", .str block)]
  | .globalFallback sender => [("sender", .str sender)]

/-- The JSON form of an event. -/
def toJson (e : Event) : Json := .record (("hook", .str e.hook) :: e.details)

end Event

end Telemetry

end Chatflow
