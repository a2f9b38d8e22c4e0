import Chatflow.Block.Pattern
import Chatflow.Message.Envelope

/-!
# Blocks

A block is a node of a flow: what triggers it, what it captures from the answer, what it sends,
and where the flow goes next. Blocks do not change while a conversation runs.
-/

namespace Chatflow

/-! ### Captures -/

/-- What a capture reads from an event. -/
inductive Capture.Source where
  /-- The text of a text or quick reply, the payload of another message. -/
  | input
  /-- The payload. -/
  | payload
  /-- The value of a named entity. -/
  | entity (name : String)
  deriving DecidableEq, Repr

namespace Capture.Source

/-- The text of a source: the numbers -1 and -2 stand for the input and the payload. -/
def display : Capture.Source → String
  | .input => "-1"
  | .payload => "-2"
  | .entity name => name

/-- Reads a source: a number or the name of an entity. -/
def ofJson? : Decoder Capture.Source
  | .str name => some (.entity name)
  | v => (Decode.int64 v).map fun n =>
    if n = -1 then .input else if n = -2 then .payload else .entity (toString n)

/-- The JSON form of a source. -/
def toJson : Capture.Source → Json
  | .input => .int (-1)
  | .payload => .int (-2)
  | .entity name => .str name

end Capture.Source

/-- Keeps a part of the answer in a variable. -/
structure Capture where
  /-- What is read. -/
  source : Capture.Source
  /-- The name of the variable. -/
  variableName : String
  deriving DecidableEq, Repr

namespace Capture

/-- Reads a capture. -/
def ofJson? : Decoder Capture := fun v => do
  let r ← Record.ofJson? ["entity", "context_var"] v
  return ⟨← r.required "entity" Source.ofJson?, ← r.required "context_var" Decode.text⟩

/-- The JSON form of a capture. -/
def toJson (c : Capture) : Json :=
  .record [("entity", c.source.toJson), ("context_var", .str c.variableName)]

end Capture

/-! ### Options -/

/-- When a block asks again because no next block fits the answer. -/
structure FallbackPolicy where
  /-- Whether it asks again at all. -/
  active : Bool
  /-- The last count of attempts at which it still does. -/
  maxAttempts : UInt32
  /-- The texts to ask again with. -/
  messages : List String
  deriving DecidableEq, Repr

namespace FallbackPolicy

/-- Reads a policy; every field may be missing. -/
def ofJson? : Decoder FallbackPolicy := fun v => do
  let r ← Record.ofJson? ["active", "max_attempts", "message"] v
  return ⟨← r.withDefault "active" Decode.bool false,
    ← r.withDefault "max_attempts" Decode.uint32 0,
    ← r.withDefault "message" (Decode.list Decode.text) []⟩

/-- The JSON form of a policy. -/
def toJson (p : FallbackPolicy) : Json :=
  .record [("active", .bool p.active), ("max_attempts", .nat p.maxAttempts.toNat),
    ("message", .texts p.messages)]

end FallbackPolicy

/-- How a block behaves. -/
structure BlockOptions where
  /-- How long the typing sign is shown, in milliseconds. -/
  typing : Option UInt64
  /-- When the block asks again. -/
  fallback : Option FallbackPolicy
  /-- The content that the block shows page by page. -/
  content : Option Content.Options
  /-- The agent to hand the subscriber over to. -/
  assignTo : Option String
  deriving DecidableEq, Repr

namespace BlockOptions

/-- Nothing special. -/
def none : BlockOptions := ⟨.none, .none, .none, .none⟩

/-- Reads block options; each may be missing. -/
def ofJson? : Decoder BlockOptions := fun v => do
  let r ← Record.ofJson? ["typing", "fallback", "content", "assignTo"] v
  return ⟨← r.optional "typing" Decode.uint64, ← r.optional "fallback" FallbackPolicy.ofJson?,
    ← r.optional "content" Content.Options.ofJson?, ← r.optional "assignTo" Decode.text⟩

/-- The JSON form of block options. -/
def toJson (o : BlockOptions) : Json :=
  .record (Json.field? "typing" (fun n => .nat n.toNat) o.typing ++
    Json.field? "fallback" FallbackPolicy.toJson o.fallback ++
    Json.field? "content" Content.Options.toJson o.content ++
    Json.field? "assignTo" .str o.assignTo)

end BlockOptions

/-! ### Messages -/

/-- What a block sends. -/
inductive BlockMessage where
  /-- One of the texts. -/
  | texts (texts : List String)
  | quickReplies (text : String) (replies : List QuickReply)
  | buttons (text : String) (buttons : List Button)
  | attachment (file : Attachment) (replies : List QuickReply)
  /-- A page of content, as the options of the block say. -/
  | content (elements : Bool)
  /-- Whatever a named executor answers. -/
  | plugin (name : String) (args : Json)
  deriving DecidableEq, Repr

namespace BlockMessage

/-- The name of the kind of a message. -/
def kind : BlockMessage → String
  | .texts _ => "text"
  | .quickReplies _ _ => "quick_replies"
  | .buttons _ _ => "buttons"
  | .attachment _ _ => "attachment"
  | .content _ => "content"
  | .plugin _ _ => "plugin"

/-- Reads a message: the first of its six shapes that fits. -/
def ofJson? : Decoder BlockMessage := Decode.firstOf [
  fun v => (Decode.list Decode.text v).map .texts,
  fun v => do
    let r ← Record.ofObject? v
    return .quickReplies (← r.required "text" Decode.text)
      (← r.required "quickReplies" (Decode.list QuickReply.ofJson?)),
  fun v => do
    let r ← Record.ofObject? v
    return .buttons (← r.required "text" Decode.text)
      (← r.required "buttons" (Decode.list (Button.ofJson? true))),
  fun v => do
    let r ← Record.ofObject? v
    return .attachment (← r.required "attachment" Attachment.ofJson?)
      (← r.withDefault "quickReplies" (Decode.list QuickReply.ofJson?) []),
  fun v => do
    let r ← Record.ofObject? v
    return .content (← r.required "elements" Decode.bool),
  fun v => do
    let r ← Record.ofObject? v
    return .plugin (← r.required "plugin" Decode.text) (← r.withDefault "args" Decode.any .null)]

/-- The JSON form of a message. -/
def toJson : BlockMessage → Json
  | .texts ts => .texts ts
  | .quickReplies t replies =>
    .record [("text", .str t), ("quickReplies", .arr (replies.map QuickReply.toJson))]
  | .buttons t bs => .record [("text", .str t), ("buttons", .arr (bs.map Button.toJson))]
  | .attachment file replies =>
    .record [("attachment", file.toJson), ("quickReplies", .arr (replies.map QuickReply.toJson))]
  | .content elements => .record [("elements", .bool elements)]
  | .plugin name args => .record [("plugin", .str name), ("args", args)]

end BlockMessage

/-! ### Blocks -/

/-- A node of a flow. -/
structure Block where
  /-- The id, by which other blocks name it. -/
  id : String
  /-- The name shown in statistics. -/
  name : String
  /-- What triggers it. -/
  patterns : List Pattern
  /-- The channels it is for; none named means all. -/
  triggerChannels : List String
  /-- The labels one of which the subscriber must have; none named means anyone. -/
  triggerLabels : List String
  /-- The labels given to the subscriber once it is sent. -/
  assignLabels : List String
  /-- What it captures from the event that triggers it. -/
  captures : List Capture
  /-- How it behaves. -/
  options : BlockOptions
  /-- What it sends. -/
  message : BlockMessage
  /-- Whether it can start a conversation. -/
  startsConversation : Bool
  /-- The ids of the blocks that may answer the next event. -/
  nextBlocks : List String
  /-- The id of the block sent right after it. -/
  attachedBlock : Option String
  /-- The category it is filed under. -/
  category : Option String
  /-- Whether it came with the system. -/
  builtin : Bool
  deriving DecidableEq, Repr

namespace Block

/-- A block that sends a message and nothing else. -/
def plain (id name : String) (message : BlockMessage) : Block where
  id := id
  name := name
  patterns := []
  triggerChannels := []
  triggerLabels := []
  assignLabels := []
  captures := []
  options := .none
  message := message
  startsConversation := false
  nextBlocks := []
  attachedBlock := none
  category := none
  builtin := false

/-- The block with one more pattern. -/
def withPattern (b : Block) (p : Pattern) : Block := { b with patterns := b.patterns ++ [p] }

/-- The block with more next blocks. -/
def withNext (b : Block) (ids : List String) : Block := { b with nextBlocks := b.nextBlocks ++ ids }

/-- The block with one more capture. -/
def withCapture (b : Block) (c : Capture) : Block := { b with captures := b.captures ++ [c] }

/-- The block with a fallback policy. -/
def withFallback (b : Block) (p : FallbackPolicy) : Block :=
  { b with options := { b.options with fallback := some p } }

/-- The block as one that can start a conversation. -/
def starting (b : Block) : Block := { b with startsConversation := true }

/-- Whether the block shows content page by page. -/
def isPaginated (b : Block) : Bool := b.options.content.isSome

/-- The fields of a block, in order. -/
def fieldNames : List String :=
  ["id", "name", "patterns", "trigger_channels", "trigger_labels", "assign_labels",
    "capture_vars", "options", "message", "starts_conversation", "nextBlocks", "attachedBlock",
    "category", "builtin"]

/-- Reads a block. -/
def ofJson? : Decoder Block := fun v => do
  let r ← Record.ofJson? fieldNames v
  let texts := Decode.list Decode.text
  return {
    id := ← r.required "id" Decode.text
    name := ← r.required "name" Decode.text
    patterns := ← r.withDefault "patterns" (Decode.list Pattern.ofJson?) []
    triggerChannels := ← r.withDefault "trigger_channels" texts []
    triggerLabels := ← r.withDefault "trigger_labels" texts []
    assignLabels := ← r.withDefault "assign_labels" texts []
    captures := ← r.withDefault "capture_vars" (Decode.list Capture.ofJson?) []
    options := ← r.withDefault "options" BlockOptions.ofJson? .none
    message := ← r.required "message" BlockMessage.ofJson?
    startsConversation := ← r.withDefault "starts_conversation" Decode.bool false
    nextBlocks := ← r.withDefault "nextBlocks" texts []
    attachedBlock := ← r.optional "attachedBlock" Decode.text
    category := ← r.optional "category" Decode.text
    builtin := ← r.withDefault "builtin" Decode.bool false }

/-- The JSON form of a block. -/
def toJson (b : Block) : Json :=
  .record [("id", .str b.id), ("name", .str b.name),
    ("patterns", .arr (b.patterns.map Pattern.toJson)),
    ("trigger_channels", .texts b.triggerChannels), ("trigger_labels", .texts b.triggerLabels),
    ("assign_labels", .texts b.assignLabels),
    ("capture_vars", .arr (b.captures.map Capture.toJson)), ("options", b.options.toJson),
    ("message", b.message.toJson), ("starts_conversation", .bool b.startsConversation),
    ("nextBlocks", .texts b.nextBlocks), ("attachedBlock", Json.orNull .str b.attachedBlock),
    ("category", Json.orNull .str b.category), ("builtin", .bool b.builtin)]

end Block

end Chatflow
