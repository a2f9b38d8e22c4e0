import Chatflow.Widget.Outbox

/-!
# Console lines

What a visitor types and what is printed for a delivery. A line that begins with an exclamation
mark presses the button with the payload that follows; `/quit` leaves; any other line is said as it
is. Blanks around a line do not count.
-/

namespace Chatflow

namespace Console

/-- What a visitor asks for with a line. -/
inductive Command where
  /-- Nothing, since the line is blank. -/
  | nothing
  /-- To leave. -/
  | leave
  /-- To send a message to the bot. -/
  | say (message : Json)
  deriving DecidableEq

/-- The message to the bot that a line without blanks around it stands for. -/
def message (visitor line : String) : Json :=
  match line.toList with
  | '!' :: rest =>
    let payload := String.ofList rest
    .record [("type", .str "postback"),
      ("data", .record [("text", .str payload), ("payload", .str payload)]),
      ("author", .str visitor)]
  | _ =>
    .record [("type", .str "text"), ("data", .record [("text", .str line)]),
      ("author", .str visitor)]

/-- What a visitor asks for with a line. -/
def Command.ofLine (visitor line : String) : Command :=
  let line := Text.trim line
  if line = "" then .nothing
  else if line = "/quit" then .leave
  else .say (message visitor line)

/-! ### Output -/

/-- The text in a field; empty if there is none. -/
def textIn (v : Json) (name : String) : String := ((v.get? name).bind Json.text?).getD ""

/-- The items in a field; none if it is no array. -/
def itemsIn (v : Json) (name : String) : List Json :=
  match v.get? name with
  | some (.arr items) => items
  | _ => []

/-- The line of a quick reply. -/
def replyLine (reply : Json) : String :=
  "     [" ++ textIn reply "title" ++ "] !" ++ textIn reply "payload"

/-- The line of a button: its payload, or else where it leads. -/
def buttonLine (button : Json) : String :=
  "     (" ++ textIn button "title" ++ ") " ++
    match (button.get? "payload").bind Json.text? with
    | some payload => "!" ++ payload
    | none => textIn button "url"

/-- The lines printed for a delivery. -/
def shown (d : Widget.Delivery) : List String :=
  let data := d.message.data
  (((data.get? "text").bind Json.text?).map ("bot> " ++ ·)).toList ++
    (itemsIn data "quick_replies").map replyLine ++ (itemsIn data "buttons").map buttonLine ++
    (if d.message.handover then ["     (handed over to a human agent)"] else [])

end Console

end Chatflow
