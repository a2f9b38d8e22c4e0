import Chatflow.Message.Payload

/-!
# Incoming messages

The shapes a received message can have, whatever channel it came by, and the names of the kinds
of events and messages.
-/

namespace Chatflow

/-- The kind of an event. -/
inductive EventKind where
  | message
  | delivery
  | read
  | typing
  | unknown
  deriving DecidableEq, Repr

/-- The name of a kind of event. -/
def EventKind.name : EventKind → String
  | .message => "message"
  | .delivery => "delivery"
  | .read => "read"
  | .typing => "typing"
  | .unknown => "unknown"

/-- The names of the kinds of events. -/
def EventKind.names : List (String × EventKind) :=
  [.message, .delivery, .read, .typing, .unknown].map fun k => (k.name, k)

/-- The kind of a received message. -/
inductive MessageKind where
  | message
  | postback
  | quickReply
  | location
  | attachments
  | unknown
  deriving DecidableEq, Repr

/-- The name of a kind of message. -/
def MessageKind.name : MessageKind → String
  | .message => "message"
  | .postback => "postback"
  | .quickReply => "quick_reply"
  | .location => "location"
  | .attachments => "attachments"
  | .unknown => "unknown"

/-- The names of the kinds of messages. -/
def MessageKind.names : List (String × MessageKind) :=
  [.message, .postback, .quickReply, .location, .attachments, .unknown].map fun k => (k.name, k)

/-- What a received message says. -/
inductive IncomingMessage where
  | postback (payload text : String)
  | text (text : String)
  | location (coordinates : Coordinates)
  /-- A file, with the line that stands for it in text. -/
  | attachment (serialized : String) (file : FileRef)
  deriving DecidableEq, Repr

namespace IncomingMessage

/-- The text that patterns are matched against. -/
def plainText : IncomingMessage → String
  | .postback _ t => t
  | .text t => t
  | .location _ => ""
  | .attachment serialized _ => serialized

/-- The JSON form of a received message. -/
def toJson : IncomingMessage → Json
  | .postback p t => .record [("postback", .str p), ("text", .str t)]
  | .text t => .record [("text", .str t)]
  | .location c => .record [("coordinates", c.toJson)]
  | .attachment serialized file =>
    .record [("serialized_text", .str serialized), ("attachment", file.toJson)]

/-- Reads a received message: the first of its four shapes that fits. -/
def ofJson? : Decoder IncomingMessage := Decode.firstOf [
  fun v => do
    let r ← Record.ofObject? v
    return .postback (← r.required "postback" Decode.text) (← r.required "text" Decode.text),
  fun v => do
    let r ← Record.ofObject? v
    return .text (← r.required "text" Decode.text),
  fun v => do
    let r ← Record.ofObject? v
    return .location (← r.required "coordinates" Coordinates.ofJson?),
  fun v => do
    let r ← Record.ofObject? v
    return .attachment (← r.required "serialized_text" Decode.text)
      (← r.required "attachment" FileRef.ofJson?)]

end IncomingMessage

end Chatflow
