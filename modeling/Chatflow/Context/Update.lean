import Chatflow.Block.Basic
import Chatflow.Context
import Chatflow.Event
import Chatflow.Text.Quoted

/-!
# Folding events into contexts

`Context.fold` takes in the event that triggers a block: the last text, payload, parse and place,
the sender's name, what the block captures, and the reading position of a block that shows
content. `permanentCaptures` are the captures that are kept with the subscriber: those of the
input. `Context.update` gives both.
-/

namespace Chatflow

/-! ### Captures -/

/-- A value without blanks around it when it is a text. -/
def Json.trim : Json → Json
  | .str s => .str (Text.trim s)
  | v => v

/-- What a capture reads from an event. -/
def Capture.Source.read? (source : Capture.Source) (e : Event) : Option Json :=
  match source with
  | .input =>
    match e.messageKind with
    | .message | .quickReply => some (.str e.text)
    | .postback | .location | .attachments | .unknown => e.payload?.map Payload.toJson
  | .payload => e.payload?.map Payload.toJson
  | .entity name => (e.nlp.bind (·.find? name)).map fun found => .str found.value

/-- The variables that captures set, in order. -/
def captured (captures : List Capture) (e : Event) : List (String × Json) :=
  captures.filterMap fun c => (c.source.read? e).map fun v => (c.variableName, v.trim)

/-- The captures of the input. -/
def Block.inputCaptures (b : Block) : List Capture := b.captures.filter (·.source = .input)

/-- The variables of a block that are kept with the subscriber. -/
def Block.permanentCaptures (b : Block) (e : Event) : Dict Json :=
  .ofList (captured b.inputCaptures e)

/-! ### Contexts -/

/-- Whether an event asks for the next page. -/
def Event.asksForMore (e : Event) : Bool := e.payload? = some (.code viewMore)

/-- The sum of two numbers of 32 bits, or the largest such number. -/
def saturatingAdd (a b : UInt32) : UInt32 :=
  if a.toNat + b.toNat < UInt32.size then a + b else 4294967295

namespace Context

/-- The context with the sender's name, and the language when it is known. -/
def withUser (c : Context) (s : Subscriber) : Context :=
  { c with user := ⟨s.id, s.firstName, s.lastName, s.language <|> c.user.language⟩ }

/-- The context with the place of a location message. -/
def withPlace (c : Context) (e : Event) : Context :=
  match e.coordinates? with
  | some p => { c with userLocation := ⟨p.lat, p.lon, none⟩ }
  | none => c

/-- The context with the reading position of a block: the next page when it is asked for, else
the first. -/
def withSkip (c : Context) (b : Block) (e : Event) : Context :=
  match b.options.content with
  | some options =>
    let skip := if e.asksForMore then saturatingAdd (c.skipFor b.id) options.limit else 0
    { c with skip := c.skip.insert b.id skip }
  | none => c

/-- The context after an event that triggers a block. -/
def fold (c : Context) (b : Block) (e : Event) : Context :=
  let c : Context := { c with
    channel := some e.channel
    text := some e.text
    payload := e.payload?
    nlp := e.nlp
    vars := c.vars.insertAll (captured b.captures e) }
  let c := e.sender.elim c c.withUser
  (c.withPlace e).withSkip b e

/-- What comes of an event that triggers a block. -/
structure Update where
  /-- The context after it. -/
  context : Context
  /-- The variables that are kept with the subscriber. -/
  kept : Dict Json
  deriving DecidableEq

/-- Takes in an event that triggers a block. What the block captures of the input is kept with the
subscriber if this is `permanent`. -/
def update (c : Context) (b : Block) (e : Event) (permanent : Bool) : Update where
  context := c.fold b e
  kept := if permanent then b.permanentCaptures e else .empty

end Context

end Chatflow
