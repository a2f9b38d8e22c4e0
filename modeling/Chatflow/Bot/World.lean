import Chatflow.Bot.Error
import Chatflow.Bot.Outage
import Chatflow.Bot.Settings
import Chatflow.Channel.Registry
import Chatflow.Context.Update
import Chatflow.Rendering.Message
import Chatflow.Store.Blocks
import Chatflow.Store.Conversations
import Chatflow.Store.Subscribers
import Chatflow.Telemetry.Snapshot

/-!
# Bots and their world

A `Bot` is all that a turn reads and does not change: the flow, the content, the executors, the
settings, which calls fail and which texts are chosen. The `World` is what turns change: the
conversations and subscribers, the channels, the telemetry, and a journal of the messages sent.

A turn is a computation on the world (`Turn`), or one that may fail (`Attempt`); what it did
before it failed stays done. The calls to stores are here, each as one function: a call is
counted, then it meets a fault or does its work. A call that fails, by a fault or because the
store refuses, is put on record (`World.failures`).
-/

namespace Chatflow

/-- What a turn reads and does not change. -/
structure Bot where
  /-- The flow. -/
  blocks : BlockStore
  /-- The entries that blocks show. -/
  contents : ContentStore
  /-- The executors that blocks name. -/
  executors : Executor.Registry
  /-- The settings. -/
  settings : Settings
  /-- The calls that fail. -/
  outages : Outages
  /-- The numbers drawn to choose texts, by how many were drawn before. -/
  rolls : Nat → Nat

/-- A message that a channel accepted. -/
structure Sent where
  /-- The name of the channel. -/
  channel : String
  /-- The id of the recipient on the channel. -/
  recipient : String
  /-- The block that it is the message of. -/
  block : Block
  /-- Whether the block asked again. -/
  fallback : Bool
  /-- The context it was rendered in. -/
  context : Context
  /-- The conversation it belongs to. -/
  conversation : Option String
  /-- The message. -/
  envelope : Envelope
  /-- How it was sent. -/
  options : SendOptions
  deriving DecidableEq

/-- The JSON form of a sent message. -/
def Sent.toJson (s : Sent) : Json :=
  .record [("channel", .str s.channel), ("to", .str s.recipient), ("envelope", s.envelope.toJson),
    ("options", s.options.toJson), ("attempt", .nat s.context.attempt.toNat)]

/-- What turns change. -/
structure World where
  /-- The conversations. -/
  conversations : ConversationStore
  /-- The subscribers. -/
  subscribers : SubscriberStore
  /-- The channels with what waits in them. -/
  channels : Channel.Registry
  /-- The telemetry, oldest first. -/
  telemetry : List Telemetry.Event
  /-- The messages sent, oldest first. -/
  journal : List Sent
  /-- The texts given to the language service, oldest first. -/
  asked : List String
  /-- The numbers of calls made, by their names. -/
  calls : Dict Nat
  /-- The calls that failed, oldest first. -/
  failures : List Call
  /-- How many numbers were drawn to choose texts. -/
  drawn : Nat
  /-- Whether a count has left its range, after which answers mean nothing. -/
  overflowed : Bool
  deriving DecidableEq

namespace World

/-- A world with the given channels in which nothing has happened. -/
def fresh (channels : Channel.Registry) : World :=
  ⟨.empty, .empty, channels, [], [], [], .empty, [], 0, false⟩

/-- The number of times that a call was made. -/
def made (w : World) (call : Call) : Nat := (w.calls.find? call.name).getD 0

/-- The world after a call is made. -/
def counted (w : World) (call : Call) : World := { w with calls := w.calls.bump call.name }

/-- The world after a call has failed. -/
def failed (w : World) (call : Call) : World := { w with failures := w.failures ++ [call] }

/-- The world in which a call counts as never made. -/
def forgetting (w : World) (call : Call) : World := { w with calls := w.calls.insert call.name 0 }

/-- The id of the message sent after some others. -/
def messageId (sent : Nat) : String := "mid-" ++ toString (sent + 1)

/-- The id of the next message. -/
def nextMessageId (w : World) : String := messageId w.journal.length

end World

/-- A computation on the world. -/
abbrev Turn := StateM World

/-- A computation on the world that may fail. -/
abbrev Attempt := ExceptT BotError Turn

/-- Reports an event. -/
def emit (e : Telemetry.Event) : Turn Unit :=
  modify fun w => { w with telemetry := w.telemetry ++ [e] }

namespace Event

/-- The sender of an event, who must be known. -/
def requireSender (e : Event) : Attempt Subscriber :=
  match e.sender with
  | some s => pure s
  | none => throw .missingSender

end Event

namespace Bot

variable (bot : Bot)

/-! ### Calls -/

/-- Makes a call: counts it, and gives the fault that it meets. -/
def meet (call : Call) : Turn (Option Fault) := fun w =>
  match bot.outages call (w.made call) with
  | some fault => (some fault, (w.counted call).failed call)
  | none => (none, w.counted call)

/-- Makes a call to a store: it fails as the outages say, or does its work. -/
def ask {α : Type} (call : Call) (work : World → Except StoreError (α × World)) : Attempt α :=
  fun w =>
    match bot.outages call (w.made call) with
    | some fault => (.error (.store fault.storeError), (w.counted call).failed call)
    | none =>
      match work (w.counted call) with
      | .ok (a, w) => (.ok a, w)
      | .error cause => (.error (.store cause), (w.counted call).failed call)

/-- The blocks of some ids, in that order. -/
def findBlocks (ids : List String) : Attempt (List Block) :=
  bot.ask .findBlocks fun w => .ok (bot.blocks.findMany ids, w)

/-- The block of an id. -/
def findBlock (id : String) : Attempt (Option Block) :=
  bot.ask .findBlock fun w => .ok (bot.blocks.find? id, w)

/-- The blocks that can start a conversation. -/
def findStarting : Attempt (List Block) :=
  bot.ask .findStarting fun w => .ok (bot.blocks.starting, w)

/-- The active conversation of a sender. -/
def findActive (sender : String) : Attempt (Option Conversation) :=
  bot.ask .findActive fun w => .ok (w.conversations.active? sender, w)

/-- Creates a conversation for a sender. -/
def createConversation (sender : String) : Attempt Conversation :=
  bot.ask .createConversation fun w => do
    let (c, store) ← w.conversations.create sender
    return (c, { w with conversations := store })

/-- Writes a conversation over the one with its id. -/
def updateConversation (c : Conversation) : Attempt Unit :=
  bot.ask .updateConversation fun w => do
    return ((), { w with conversations := ← w.conversations.update c })

/-- Ends the conversation with an id. -/
def endConversation (id : String) : Attempt Unit :=
  bot.ask .endConversation fun w => do
    return ((), { w with conversations := ← w.conversations.finish id })

/-- The subscriber with an id. -/
def findSubscriber (id : String) : Attempt (Option Subscriber) :=
  bot.ask .findSubscriber fun w => .ok (w.subscribers.find? id, w)

/-- The subscriber with an id on a channel, created if there is none. -/
def getOrCreateSubscriber (channel foreignId : String) : Attempt Subscriber :=
  bot.ask .getOrCreateSubscriber fun w =>
    let (s, store) := w.subscribers.getOrCreate channel foreignId
    .ok (s, { w with subscribers := store })

/-- Lays variables over those of a subscriber. -/
def updateVars (id : String) (vars : Dict Json) : Attempt Unit :=
  bot.ask .updateVars fun w => do
    return ((), { w with subscribers := (← w.subscribers.updateVars id vars).2 })

/-- Gives labels to a subscriber, and hands it over to an agent if one is named. -/
def applyUpdates (id : String) (labels : List String) (agent : Option String) : Attempt Unit :=
  bot.ask .applyUpdates fun w => do
    return ((), { w with subscribers := (← w.subscribers.applyUpdates id labels agent).2 })

end Bot

end Chatflow
