import Chatflow.Content.Options

/-!
# Envelopes

What the engine hands to a channel: a message in one of seven formats, and how to send it. The
JSON form is `{format, message}`.
-/

namespace Chatflow

/-! ### Attachments and pages -/

/-- A file in an outgoing message: stored under an id, or lying elsewhere. -/
structure Attachment where
  /-- The kind of the file. -/
  kind : String
  /-- The id of a stored file. -/
  id : Option String
  /-- The address of a file that lies elsewhere. -/
  url : Option String
  deriving DecidableEq, Repr

namespace Attachment

/-- Reads an attachment; its target stands in a record of its own. -/
def ofJson? : Decoder Attachment := fun v => do
  let r ← Record.ofJson? ["type", "payload"] v
  let kind ← r.required "type" Decode.text
  let (id, url) ← r.required "payload" fun v => do
    let t ← Record.ofJson? ["attachment_id", "url"] v
    return (← t.optional "attachment_id" Decode.text, ← t.optional "url" Decode.text)
  return ⟨kind, id, url⟩

/-- The JSON form of an attachment. -/
def toJson (a : Attachment) : Json :=
  .record [("type", .str a.kind),
    ("payload", .record (Json.field? "attachment_id" .str a.id ++ Json.field? "url" .str a.url))]

end Attachment

/-- Which part of the entries a page shows. -/
structure Pagination where
  /-- The number of entries. -/
  total : UInt64
  /-- The number of entries before the page. -/
  skip : UInt64
  /-- The number of entries on a full page. -/
  limit : UInt64
  deriving DecidableEq, Repr

namespace Pagination

/-- Reads a pagination. -/
def ofJson? : Decoder Pagination := fun v => do
  let r ← Record.ofJson? ["total", "skip", "limit"] v
  return ⟨← r.required "total" Decode.uint64, ← r.required "skip" Decode.uint64,
    ← r.required "limit" Decode.uint64⟩

/-- The JSON form of a pagination. -/
def toJson (p : Pagination) : Json :=
  .record [("total", .nat p.total.toNat), ("skip", .nat p.skip.toNat),
    ("limit", .nat p.limit.toNat)]

end Pagination

/-- A page of content entries. -/
structure ContentPage where
  /-- The entries on the page. -/
  elements : List Json
  /-- Which part of all entries they are. -/
  pagination : Pagination
  /-- How they are shown. -/
  options : Content.Options
  deriving DecidableEq, Repr

namespace ContentPage

/-- Reads a page. -/
def ofJson? : Decoder ContentPage := fun v => do
  let r ← Record.ofJson? ["elements", "pagination", "options"] v
  return ⟨← r.required "elements" (Decode.list Decode.any),
    ← r.required "pagination" Pagination.ofJson?, ← r.required "options" Content.Options.ofJson?⟩

/-- The JSON form of a page. -/
def toJson (p : ContentPage) : Json :=
  .record [("elements", .arr p.elements), ("pagination", p.pagination.toJson),
    ("options", p.options.toJson)]

end ContentPage

/-! ### Envelopes -/

/-- A message for a channel. -/
inductive Envelope where
  | text (text : String)
  | quickReplies (text : String) (replies : List QuickReply)
  | buttons (text : String) (buttons : List Button)
  | attachment (file : Attachment) (replies : List QuickReply)
  | list (page : ContentPage)
  | carousel (page : ContentPage)
  /-- A note to the system, not to the subscriber. -/
  | system (outcome : Option String) (data : Option Json)
  deriving DecidableEq, Repr

namespace Envelope

/-- The names of the formats, in the order of the shapes. -/
def formats : List String :=
  ["text", "quickReplies", "buttons", "attachment", "list", "carousel", "system"]

/-- The name of the format of an envelope. -/
def format : Envelope → String
  | .text _ => "text"
  | .quickReplies _ _ => "quickReplies"
  | .buttons _ _ => "buttons"
  | .attachment _ _ => "attachment"
  | .list _ => "list"
  | .carousel _ => "carousel"
  | .system _ _ => "system"

/-- The main text, in the formats that have one. -/
def mainText? : Envelope → Option String
  | .text t => some t
  | .quickReplies t _ => some t
  | .buttons t _ => some t
  | _ => none

/-- The JSON form of the part under `message`. -/
def messageJson : Envelope → Json
  | .text t => .record [("text", .str t)]
  | .quickReplies t replies =>
    .record [("text", .str t), ("quickReplies", .arr (replies.map QuickReply.toJson))]
  | .buttons t bs =>
    .record [("text", .str t), ("buttons", .arr (bs.map Button.toJson))]
  | .attachment file replies =>
    .record (("attachment", file.toJson) ::
      if replies.isEmpty then [] else [("quickReplies", .arr (replies.map QuickReply.toJson))])
  | .list page => page.toJson
  | .carousel page => page.toJson
  | .system outcome data =>
    .record (Json.field? "outcome" .str outcome ++ Json.field? "data" id data)

/-- The JSON form of an envelope. -/
def toJson (e : Envelope) : Json :=
  .record [("format", .str e.format), ("message", e.messageJson)]

/-- Reads the part under `message` in a given format: a page in either form of a record, the other
formats from objects alone. -/
def ofMessage? (format : String) : Decoder Envelope := fun v =>
  match format with
  | "text" => do
    let r ← Record.ofObject? v
    return .text (← r.required "text" Decode.text)
  | "quickReplies" => do
    let r ← Record.ofObject? v
    return .quickReplies (← r.required "text" Decode.text)
      (← r.required "quickReplies" (Decode.list QuickReply.ofJson?))
  | "buttons" => do
    let r ← Record.ofObject? v
    return .buttons (← r.required "text" Decode.text)
      (← r.required "buttons" (Decode.list (Button.ofJson? false)))
  | "attachment" => do
    let r ← Record.ofObject? v
    return .attachment (← r.required "attachment" Attachment.ofJson?)
      (← r.withDefault "quickReplies" (Decode.list QuickReply.ofJson?) [])
  | "list" => (ContentPage.ofJson? v).map .list
  | "carousel" => (ContentPage.ofJson? v).map .carousel
  | "system" => do
    let r ← Record.ofObject? v
    return .system (← r.optional "outcome" Decode.text) (← r.optional "data" Decode.any)
  | _ => none

/-- Reads an envelope. -/
def ofJson? : Decoder Envelope := fun v => do
  let r ← Record.ofJson? ["format", "message"] v
  let format ← r.required "format" (Decode.choice (formats.map fun f => (f, f)))
  r.required "message" (ofMessage? format)

end Envelope

/-! ### Sending -/

/-- How an envelope is to be sent. -/
structure SendOptions where
  /-- How long the typing sign is shown, in milliseconds. -/
  typing : Option UInt64
  /-- The agent to hand the subscriber over to. -/
  assignTo : Option String
  /-- The content options of the block. -/
  content : Option Content.Options
  deriving DecidableEq, Repr

namespace SendOptions

/-- Nothing special. -/
def none : SendOptions := ⟨.none, .none, .none⟩

/-- Reads send options; each may be missing. -/
def ofJson? : Decoder SendOptions := fun v => do
  let r ← Record.ofJson? ["typing", "assignTo", "content"] v
  return ⟨← r.optional "typing" Decode.uint64, ← r.optional "assignTo" Decode.text,
    ← r.optional "content" Content.Options.ofJson?⟩

/-- The JSON form of send options. -/
def toJson (o : SendOptions) : Json :=
  .record (Json.field? "typing" (fun n => .nat n.toNat) o.typing ++
    Json.field? "assignTo" .str o.assignTo ++
    Json.field? "content" Content.Options.toJson o.content)

end SendOptions

end Chatflow
