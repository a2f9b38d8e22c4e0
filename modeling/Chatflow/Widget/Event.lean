import Chatflow.Message.Incoming

/-!
# Widget events

What the chat widget sends: a message with a body, a status, or something that is not understood
and is kept as it came. `Widget.Event.ofJson` reads every value; `known` lists the types that are
understood, by which the caller tells a malformed event from an unknown one.
-/

namespace Chatflow

namespace Widget

/-! ### Messages -/

/-- The body of a widget message. -/
inductive Body where
  | text (text : String)
  | quickReply (text payload : String)
  | postback (text payload : String)
  | location (coordinates : Coordinates)
  | file (kind url : String) (size : Option UInt64) (name : Option String)
  deriving DecidableEq, Repr

namespace Body

/-- The types of the bodies. -/
def types : List String := ["text", "quick_reply", "postback", "location", "file"]

/-- Reads the text and the payload of a button or quick reply. -/
def readPressed : Decoder (String × String) := fun v => do
  let r ← Record.ofJson? ["text", "payload"] v
  return (← r.required "text" Decode.text, ← r.required "payload" Decode.text)

/-- Reads the place of a location; the widget calls the longitude `lng`. -/
def readPlace : Decoder Coordinates := fun v => do
  (← Record.ofJson? ["coordinates"] v).required "coordinates" fun v => do
    let r ← Record.ofJson? ["lat", "lng"] v
    return ⟨← r.required "lat" Decode.float, ← r.required "lng" Decode.float⟩

/-- Reads the data of a body of a given type. -/
def ofData? (type : String) : Decoder Body := fun v =>
  match type with
  | "text" => do
    return .text (← (← Record.ofJson? ["text"] v).required "text" Decode.text)
  | "quick_reply" => (readPressed v).map fun p => .quickReply p.1 p.2
  | "postback" => (readPressed v).map fun p => .postback p.1 p.2
  | "location" => (readPlace v).map .location
  | "file" => do
    let r ← Record.ofJson? ["type", "url", "size", "name"] v
    return .file (← r.required "type" Decode.text) (← r.required "url" Decode.text)
      (← r.optional "size" Decode.uint64) (← r.optional "name" Decode.text)
  | _ => none

/-- The type of a body. -/
def type : Body → String
  | .text _ => "text"
  | .quickReply _ _ => "quick_reply"
  | .postback _ _ => "postback"
  | .location _ => "location"
  | .file _ _ _ _ => "file"

/-- The JSON form of the data of a body. -/
def dataJson : Body → Json
  | .text t => .record [("text", .str t)]
  | .quickReply t p => .record [("text", .str t), ("payload", .str p)]
  | .postback t p => .record [("text", .str t), ("payload", .str p)]
  | .location c =>
    .record [("coordinates", .record [("lat", .ofFloat c.lat), ("lng", .ofFloat c.lon)])]
  | .file kind url size name =>
    .record ([("type", .str kind), ("url", .str url)] ++
      Json.field? "size" (fun n => .nat n.toNat) size ++ Json.field? "name" .str name)

end Body

/-- A widget message. -/
structure Message where
  /-- What it says. -/
  body : Body
  /-- The id on the channel. -/
  mid : Option String
  /-- The id of the sender on the channel. -/
  author : Option String
  deriving DecidableEq, Repr

namespace Message

/-- Reads a message: an object in which the type and the data of the body stand beside the rest. -/
def ofJson? : Decoder Message
  | .obj fields => do
    let (type, rest) ← splitTag "type" Body.types true (.obj fields)
    let body ← (rest.get? "data").bind (Body.ofData? type)
    let r : Record := ⟨fields, false⟩
    return ⟨body, ← r.optional "mid" Decode.text, ← r.optional "author" Decode.text⟩
  | _ => none

/-- The JSON form of a message. -/
def toJson (m : Message) : Json :=
  .record ([("type", .str m.body.type), ("data", m.body.dataJson)] ++
    Json.field? "mid" .str m.mid ++ Json.field? "author" .str m.author)

end Message

/-! ### Statuses -/

/-- A sign of life that is not a message. -/
inductive Status where
  | delivery (mid : String)
  | read (watermark : Int)
  | typing
  deriving DecidableEq, Repr

namespace Status

/-- The types of the statuses. -/
def types : List String := ["delivery", "read", "typing"]

/-- Reads what a status of a given type says. -/
def ofRest? (type : String) : Decoder Status := fun v =>
  match type with
  | "delivery" => do
    return .delivery (← (← Record.ofJson? ["mid"] v).required "mid" Decode.text)
  | "read" => do
    return .read (← (← Record.ofJson? ["watermark"] v).required "watermark" Decode.int64)
  | "typing" => (Record.ofJson? [] v).map fun _ => .typing
  | _ => none

/-- Reads a status, tagged by its type. -/
def ofJson? : Decoder Status := fun v => do
  let (type, rest) ← splitTag "type" types true v
  ofRest? type rest

/-- The JSON form of a status. -/
def toJson : Status → Json
  | .delivery mid => .record [("type", .str "delivery"), ("mid", .str mid)]
  | .read watermark => .record [("type", .str "read"), ("watermark", .int watermark)]
  | .typing => .record [("type", .str "typing")]

end Status

/-! ### Events -/

/-- What the widget sent. -/
inductive Event where
  | message (message : Message)
  | status (status : Status)
  /-- Something that is not understood, as it came. -/
  | unknown (raw : Json)
  deriving DecidableEq, Repr

namespace Event

/-- The types that are understood. -/
def known : List String := Body.types ++ Status.types

/-- Reads an event: a message if it reads as one, else a status, else unknown. -/
def ofJson (v : Json) : Event :=
  match Message.ofJson? v with
  | some m => .message m
  | none =>
    match Status.ofJson? v with
    | some s => .status s
    | none => .unknown v

/-- The JSON form of an event. -/
def toJson : Event → Json
  | .message m => m.toJson
  | .status s => s.toJson
  | .unknown raw => raw

/-- The message of a message event. -/
def message? : Event → Option Message
  | .message m => some m
  | _ => none

/-- The body of a message event. -/
def body? (e : Event) : Option Body := e.message?.map (·.body)

/-- The kind of an event. -/
def kind : Event → EventKind
  | .message _ => .message
  | .status (.delivery _) => .delivery
  | .status (.read _) => .read
  | .status .typing => .typing
  | .unknown _ => .unknown

/-- The kind of the message of an event. -/
def messageKind (e : Event) : MessageKind :=
  match e.body? with
  | some (.text _) => .message
  | some (.quickReply _ _) => .quickReply
  | some (.postback _ _) => .postback
  | some (.location _) => .location
  | some (.file _ _ _ _) => .attachments
  | none => .unknown

/-- The payload of an event: that of a button or quick reply, a place, or a file. -/
def payload? (e : Event) : Option Payload :=
  match e.body? with
  | some (.quickReply _ p) => some (.code p)
  | some (.postback _ p) => some (.code p)
  | some (.location c) => some (.location c)
  | some (.file kind url _ _) => some (.attachments ⟨kind, url⟩)
  | some (.text _) => none
  | none => none

/-- What an event says; nothing when it is not a message. -/
def content (e : Event) : IncomingMessage :=
  match e.body? with
  | some (.text t) => .text t
  | some (.quickReply t p) => .postback p t
  | some (.postback t p) => .postback p t
  | some (.location c) => .location c
  | some (.file kind url _ _) => .attachment ("attachment:" ++ kind ++ ":" ++ url) ⟨kind, url⟩
  | none => .text ""

end Event

end Widget

end Chatflow
