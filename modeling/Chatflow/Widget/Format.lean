import Chatflow.Channel.Error
import Chatflow.Json.Printer
import Chatflow.Message.Envelope
import Chatflow.Message.Payload

/-!
# Widget formats

What a widget shows for an envelope: a type and its data. Lists and carousels become elements, one
for each entry, with the buttons that the content options give; a list also has a button for the
next page, as long as there is one. Notes to the system are not for widgets.
-/

namespace Chatflow

namespace Widget

/-- What a widget shows. -/
structure View where
  /-- The type of what is shown. -/
  type : String
  /-- Its data. -/
  data : Json
  /-- The end of a page lies beyond what 64 bits can count. -/
  overflow : Bool
  deriving DecidableEq

/-! ### Elements -/

/-- The field of an entry that a mapping names, if it names one. -/
def mapped (entry : Json) (field : Option String) : Option Json := field.bind entry.get?

/-- The link of an entry: the mapped field, or else the one called `url`, if it is a text. -/
def link (entry : Json) (fields : Content.Fields) : String :=
  (((mapped entry fields.url) <|> entry.get? "url").bind Json.text?).getD ""

/-- A link with a scheme put before it, unless it begins like one. -/
def withScheme (link : String) : String :=
  if "http".toList.isPrefixOf link.toList then link else "https://" ++ link

/-- What a button of an entry sends back after its title: the mapped field, or else the one called
`title`. -/
def actionValue (entry : Json) (fields : Content.Fields) : String :=
  (((mapped entry fields.actionPayload) <|> entry.get? "title").map Json.display).getD ""

/-- A button as it stands under an entry. -/
def buttonFor (entry : Json) (fields : Content.Fields) : Button → Button
  | .webUrl title _ ratio => .webUrl title (withScheme (link entry fields)) ratio
  | .postback title _ => .postback title (title ++ ":" ++ actionValue entry fields)

/-- Buttons of which the first has the title that the entry gives, if it gives one. -/
def retitle (entry : Json) (fields : Content.Fields) : List Button → List Button
  | [] => []
  | b :: rest =>
    (((mapped entry fields.actionTitle).bind Json.text?).elim b b.withTitle) :: rest

/-- The address of the picture of an entry. -/
def pictureUrl? (picture : Json) : Option Json :=
  match (picture.get? "payload").bind (·.get? "url"), picture with
  | some url, _ => some url
  | none, .str url => some (.str url)
  | none, _ => none

/-- What a press on an element does: the same as a button that opens a page. -/
def pressAction? : Button → Option Json
  | .webUrl _ url ratio =>
    some (.record ([("type", .str "web_url"), ("url", .str url)] ++
      Json.field? "webview_height_ratio" .str ratio))
  | .postback _ _ => none

/-- The element of an entry. -/
def element (options : Content.Options) (entry : Json) : Json :=
  let fields := options.fields
  let buttons := options.buttons.map (buttonFor entry fields)
  .record ([("title", (entry.get? fields.title).getD .null)] ++
    Json.field? "subtitle" id (mapped entry fields.subtitle) ++
    Json.field? "image_url" id ((mapped entry fields.imageUrl).bind pictureUrl?) ++
    Json.field? "default_action" id (buttons.findSome? pressAction?) ++
    if buttons.isEmpty then []
    else [("buttons", .arr ((retitle entry fields buttons).map Button.toJson))])

/-- The elements of a page. There must be one, and a field for its title. -/
def elements (page : ContentPage) (display : String) : Except ChannelError (List Json) :=
  if page.elements.isEmpty then
    .error (.sendFailed ("insufficient content count for " ++ display))
  else if page.options.fields.title.isEmpty then
    .error (.sendFailed "content options are missing the title field")
  else .ok (page.elements.map (element page.options))

/-! ### Pages -/

/-- The button for the next page. -/
def moreButton : Button := .postback "View More" viewMore

/-- Whether there are entries after a page, by counting in 64 bits. -/
def hasMore (p : Pagination) : Bool := p.skip + p.limit < p.total

/-- Whether the end of a page lies beyond what 64 bits can count. -/
def overflows (p : Pagination) : Bool := UInt64.size ≤ p.skip.toNat + p.limit.toNat

/-! ### Envelopes -/

/-- What a widget shows for an envelope. -/
def view : Envelope → Except ChannelError View
  | .text t => .ok ⟨"text", .record [("text", .str t)], false⟩
  | .quickReplies t replies =>
    .ok ⟨"quick_replies",
      .record [("text", .str t), ("quick_replies", .arr (replies.map QuickReply.toJson))], false⟩
  | .buttons t bs =>
    .ok ⟨"buttons", .record [("text", .str t), ("buttons", .arr (bs.map Button.toJson))], false⟩
  | .attachment file replies =>
    .ok ⟨"file",
      .record ([("type", .str file.kind)] ++ Json.field? "url" .str file.url ++
        Json.field? "attachment_id" .str file.id ++
        if replies.isEmpty then []
        else [("quick_replies", .arr (replies.map QuickReply.toJson))]), false⟩
  | .list page => do
    let shown ← elements page "list"
    .ok ⟨"list",
      .record ([("elements", .arr shown),
        ("buttons", .arr (if hasMore page.pagination then [moreButton.toJson] else []))] ++
        Json.field? "top_element_style" .str page.options.topElementStyle),
      overflows page.pagination⟩
  | .carousel page => do
    let shown ← elements page "carousel"
    .ok ⟨"carousel", .record [("elements", .arr shown)], false⟩
  | .system outcome data => .error (.unsupportedFormat (Envelope.system outcome data).format)

end Widget

end Chatflow
