import Chatflow.Event
import Chatflow.Text.Quoted
import Chatflow.Widget.Format

/-!
# Outboxes

The messages that wait in a widget channel until they are picked up, oldest first: all of them
(`Outbox.drain`) or those of one recipient (`Outbox.drainFor`).
-/

namespace Chatflow

namespace Widget

/-- The author of what the bot says. -/
def botAuthor : String := "chatbot"

/-- A message on its way to a widget. -/
structure Outgoing where
  /-- The type of what is shown. -/
  type : String
  /-- Its data. -/
  data : Json
  /-- The id of the message. -/
  mid : String
  /-- Who says it. -/
  author : String
  /-- Whether a human agent takes over. -/
  handover : Bool
  deriving DecidableEq

namespace Outgoing

/-- Reads a message. -/
def ofJson? : Decoder Outgoing := fun v => do
  let r ← Record.ofJson? ["type", "data", "mid", "author", "handover"] v
  return ⟨← r.required "type" Decode.text, ← r.required "data" Decode.any,
    ← r.required "mid" Decode.text, ← r.required "author" Decode.text,
    ← r.required "handover" Decode.bool⟩

/-- The JSON form of a message. -/
def toJson (m : Outgoing) : Json :=
  .record [("type", .str m.type), ("data", m.data), ("mid", .str m.mid),
    ("author", .str m.author), ("handover", .bool m.handover)]

end Outgoing

/-- A message and whom it is for. -/
structure Delivery where
  /-- The id of the recipient on the channel. -/
  recipient : String
  /-- How long the typing sign is shown, in milliseconds. -/
  typing : Option UInt64
  /-- The message. -/
  message : Outgoing
  deriving DecidableEq

/-- The fields of a delivery. -/
def Delivery.fields (d : Delivery) : List (String × Json) :=
  [("recipient", .str d.recipient), ("typing", Json.orNull (fun n => .nat n.toNat) d.typing),
    ("message", d.message.toJson)]

/-- The JSON form of a delivery. -/
def Delivery.toJson (d : Delivery) : Json := .record d.fields

/-- The id to which the answer to an event goes: that of the sender once it is known, else that of
the author. -/
def recipient (e : Chatflow.Event) : Except ChannelError String :=
  match e.sender with
  | some s => .ok s.foreignId
  | none => e.author.mapError fun cause => .sendFailed cause.message

/-- The messages that wait to be picked up, oldest first. -/
abbrev Outbox := List Delivery

namespace Outbox

/-- What is put in an outbox in answer to an event, under an id for the message. -/
def delivery (e : Chatflow.Event) (envelope : Envelope) (options : SendOptions) (mid : String) :
    Except ChannelError (Delivery × Bool) := do
  let shown ← view envelope
  let whom ← recipient e
  return (⟨whom, options.typing, ⟨shown.type, shown.data, mid, botAuthor, options.assignTo.isSome⟩⟩,
    shown.overflow)

/-- An outbox with a delivery added at its end. -/
def push (o : Outbox) (d : Delivery) : Outbox := o ++ [d]

/-- All that waits, and the outbox without it. -/
def drain (o : Outbox) : List Delivery × Outbox := (o, [])

/-- What waits for one recipient, and the outbox without it. -/
def drainFor (o : Outbox) (recipient : String) : List Delivery × Outbox :=
  o.partition (·.recipient = recipient)

end Outbox

/-- The text of a widget channel in diagnostics. -/
def describe (channel : String) (o : Outbox) : String :=
  "WidgetChannel \x7b name: " ++ Text.quote channel ++ ", pending: " ++ toString o.length ++ " \x7d"

end Widget

end Chatflow
