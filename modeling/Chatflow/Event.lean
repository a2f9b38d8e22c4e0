import Chatflow.Subscriber
import Chatflow.Nlp
import Chatflow.Widget.Event

/-!
# Events

The event that the engine sees: what a widget sent, where it came from, and what the runtime
found out about it, the sender and the language parse. `Event.parse` reads the raw value of a
channel; its faults are `EventError`s.
-/

namespace Chatflow

/-! ### Errors -/

/-- Why an event or a part of it is not to be had. -/
inductive EventError where
  /-- The raw value does not read. -/
  | parse (reason : String)
  /-- A message does not carry the field. -/
  | missingField (name : String)
  /-- Only messages have the field. -/
  | notAMessage (name : String)
  deriving DecidableEq, Repr

/-- The text of an event error. -/
def EventError.message : EventError → String
  | .parse reason => "failed to parse event: " ++ reason
  | .missingField name => "missing field `" ++ name ++ "`"
  | .notAMessage name => "`" ++ name ++ "` is only available on message events"

/-! ### Events -/

/-- Where a widget runs. -/
inductive Widget.Site where
  /-- On a public page. -/
  | web
  /-- In the console of the administrator. -/
  | console
  deriving DecidableEq, Repr

namespace Widget.Site

/-- The name of the channel of a site. -/
def channelName : Site → String
  | .web => "web-channel"
  | .console => "console-channel"

/-- The site of a channel name. -/
def ofName? (name : String) : Option Site :=
  if name = web.channelName then some .web
  else if name = console.channelName then some .console
  else none

end Widget.Site

/-- An event as the engine sees it. -/
structure Event where
  /-- Where it came from. -/
  site : Widget.Site
  /-- What came. -/
  widget : Widget.Event
  /-- The subscriber who sent it, once known. -/
  sender : Option Subscriber
  /-- What its text was understood as. -/
  nlp : Option Nlp.Parse
  deriving DecidableEq

namespace Event

/-- Reads what a widget sent: an object that is not a malformed event of a known type. -/
def parseWidget (raw : Json) : Except EventError Widget.Event :=
  if !raw.isObject then .error (.parse "widget event must be a JSON object")
  else
    match Widget.Event.ofJson raw with
    | .unknown raw =>
      match (raw.get? "type").bind Json.text? with
      | some type =>
        if Widget.Event.known.contains type then
          .error (.parse ("malformed '" ++ type ++ "' event"))
        else .ok (.unknown raw)
      | none => .ok (.unknown raw)
    | event => .ok event

/-- Reads the raw value of a channel. -/
def parse (channel : String) (raw : Json) : Except EventError Event := do
  let widget ← parseWidget raw
  match Widget.Site.ofName? channel with
  | some site => .ok ⟨site, widget, none, none⟩
  | none => .error (.parse ("unknown channel '" ++ channel ++ "'"))

/-- The name of the channel the event came by. -/
def channel (e : Event) : String := e.site.channelName

/-- The kind of the event. -/
def kind (e : Event) : EventKind := e.widget.kind

/-- The kind of the message. -/
def messageKind (e : Event) : MessageKind := e.widget.messageKind

/-- The payload of the event. -/
def payload? (e : Event) : Option Payload := e.widget.payload?

/-- What the event says. -/
def content (e : Event) : IncomingMessage := e.widget.content

/-- The text that patterns are matched against. -/
def text (e : Event) : String := e.content.plainText

/-- The place of a location message. -/
def coordinates? (e : Event) : Option Coordinates :=
  match e.content with
  | .location c => some c
  | _ => none

/-- A field of the message of an event. -/
def messageField (e : Event) (name : String) (get : Widget.Message → Option String) :
    Except EventError String :=
  match e.widget.message? with
  | some m => (get m).elim (.error (.missingField name)) .ok
  | none => .error (.notAMessage name)

/-- The id of the message on its channel. -/
def mid (e : Event) : Except EventError String := e.messageField "mid" (·.mid)

/-- The id of the sender on its channel. -/
def author (e : Event) : Except EventError String := e.messageField "author" (·.author)

/-- The event with its sender. -/
def withSender (e : Event) (s : Subscriber) : Event := { e with sender := some s }

/-- The event with the parse of its text. -/
def withNlp (e : Event) (p : Nlp.Parse) : Event := { e with nlp := some p }

end Event

end Chatflow
