import Chatflow.Json.Decode

/-!
# Buttons and quick replies

What a message offers the subscriber to press. A postback button and a quick reply send a payload
back; a web button opens a page.
-/

namespace Chatflow

/-! ### Buttons -/

/-- A button under a message. -/
inductive Button where
  /-- Sends its payload back. -/
  | postback (title payload : String)
  /-- Opens a page, in a view of the given height. -/
  | webUrl (title url : String) (heightRatio : Option String)
  deriving DecidableEq, Repr

namespace Button

/-- The text on the button. -/
def title : Button → String
  | .postback title _ => title
  | .webUrl title _ _ => title

/-- The button with another text on it. -/
def withTitle (title : String) : Button → Button
  | .postback _ payload => .postback title payload
  | .webUrl _ url ratio => .webUrl title url ratio

/-- The names of the kinds of buttons. -/
def kinds : List String := ["postback", "web_url"]

/-- Reads a button, tagged by its kind. -/
def ofJson? (byNumber : Bool) : Decoder Button := fun v => do
  let (kind, rest) ← splitTag "type" kinds byNumber v
  if kind = "postback" then
    let r ← Record.ofJson? ["title", "payload"] rest
    return .postback (← r.required "title" Decode.text) (← r.required "payload" Decode.text)
  else
    let r ← Record.ofJson? ["title", "url", "webview_height_ratio"] rest
    return .webUrl (← r.required "title" Decode.text) (← r.required "url" Decode.text)
      (← r.optional "webview_height_ratio" Decode.text)

/-- The JSON form of a button. -/
def toJson : Button → Json
  | .postback title payload =>
    .record [("type", .str "postback"), ("title", .str title), ("payload", .str payload)]
  | .webUrl title url ratio =>
    .record ([("type", .str "web_url"), ("title", .str title), ("url", .str url)] ++
      Json.field? "webview_height_ratio" .str ratio)

end Button

/-! ### Quick replies -/

/-- What a quick reply asks for. -/
inductive QuickReply.Kind where
  | text
  | location
  deriving DecidableEq, Repr, Inhabited

/-- The names of the kinds of quick replies. -/
def QuickReply.Kind.names : List (String × QuickReply.Kind) :=
  [("text", .text), ("location", .location)]

/-- The name of a kind of quick reply. -/
def QuickReply.Kind.name : QuickReply.Kind → String
  | .text => "text"
  | .location => "location"

/-- An answer that the subscriber can give by pressing it. -/
structure QuickReply where
  /-- What the reply asks for. -/
  kind : QuickReply.Kind
  /-- The text shown. -/
  title : Option String
  /-- What is sent back. -/
  payload : Option String
  deriving DecidableEq, Repr

namespace QuickReply

/-- Reads a quick reply; every field may be missing. -/
def ofJson? : Decoder QuickReply := fun v => do
  let r ← Record.ofJson? ["content_type", "title", "payload"] v
  return {
    kind := ← r.withDefault "content_type" (Decode.choice Kind.names) .text
    title := ← r.optional "title" Decode.text
    payload := ← r.optional "payload" Decode.text }

/-- The JSON form of a quick reply. -/
def toJson (q : QuickReply) : Json :=
  .record ([("content_type", .str q.kind.name)] ++ Json.field? "title" .str q.title ++
    Json.field? "payload" .str q.payload)

end QuickReply

end Chatflow
