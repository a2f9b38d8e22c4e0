import Chatflow.Message.Payload
import Chatflow.Nlp

/-!
# Contexts

What a conversation carries from one turn to the next: the subscriber's name, the last place, the
captured variables, the reading position in paged content, the count of attempts, and the last
event.
-/

namespace Chatflow

/-- The subscriber's name and language as of the last turn. -/
structure UserSnapshot where
  /-- The id of the subscriber. -/
  id : String
  /-- The first name. -/
  firstName : String
  /-- The last name. -/
  lastName : String
  /-- The language, when one is known. -/
  language : Option String
  deriving DecidableEq, Repr, Inhabited

namespace UserSnapshot

/-- Nobody. -/
def empty : UserSnapshot := ⟨"", "", "", none⟩

/-- Reads a snapshot; every field may be missing. -/
def ofJson? : Decoder UserSnapshot := fun v => do
  let r ← Record.ofJson? ["id", "first_name", "last_name", "language"] v
  return ⟨← r.withDefault "id" Decode.text "", ← r.withDefault "first_name" Decode.text "",
    ← r.withDefault "last_name" Decode.text "", ← r.optional "language" Decode.text⟩

/-- The fields of a snapshot with their values; the language only when it is known. -/
def fields (u : UserSnapshot) : Dict String :=
  .ofList ([("id", u.id), ("first_name", u.firstName), ("last_name", u.lastName)] ++
    match u.language with
    | some language => [("language", language)]
    | none => [])

/-- The JSON form of a snapshot. -/
def toJson (u : UserSnapshot) : Json := .ofDict (u.fields.map .str)

end UserSnapshot

/-- The place the subscriber sent last. -/
structure UserLocation where
  /-- The latitude. -/
  lat : Float
  /-- The longitude. -/
  lon : Float
  /-- The address, when one is known. -/
  address : Option (Dict Json)
  deriving DecidableEq

namespace UserLocation

/-- No place yet. -/
def origin : UserLocation := ⟨0, 0, none⟩

/-- Reads a place; the address may be missing. -/
def ofJson? : Decoder UserLocation := fun v => do
  let r ← Record.ofJson? ["lat", "lon", "address"] v
  return ⟨← r.required "lat" Decode.float, ← r.required "lon" Decode.float,
    ← r.optional "address" (Decode.dict Decode.any)⟩

/-- The JSON form of a place. -/
def toJson (l : UserLocation) : Json :=
  .record ([("lat", .ofFloat l.lat), ("lon", .ofFloat l.lon)] ++
    Json.field? "address" .ofDict l.address)

end UserLocation

/-- The state of a conversation beyond its place in the flow. -/
structure Context where
  /-- Who is talking. -/
  user : UserSnapshot
  /-- The place sent last. -/
  userLocation : UserLocation
  /-- The captured variables. -/
  vars : Dict Json
  /-- The number of entries before the page, for each block that shows content. -/
  skip : Dict UInt32
  /-- The number of times in a row that the bot had to ask again. -/
  attempt : UInt32
  /-- What the last text was understood as. -/
  nlp : Option Nlp.Parse
  /-- The last payload. -/
  payload : Option Payload
  /-- The channel of the last event. -/
  channel : Option String
  /-- The text of the last event. -/
  text : Option String
  deriving DecidableEq

namespace Context

/-- The context of a conversation that has not begun. -/
def empty : Context :=
  ⟨.empty, .origin, .empty, .empty, 0, none, none, none, none⟩

instance : Inhabited Context := ⟨empty⟩

/-- The number of entries before the page of a block; none before its first. -/
def skipFor (c : Context) (blockId : String) : UInt32 := (c.skip.find? blockId).getD 0

/-- Reads a context; every field may be missing. -/
def ofJson? : Decoder Context := fun v => do
  let r ← Record.ofJson?
    ["user", "user_location", "vars", "skip", "attempt", "nlp", "payload", "channel", "text"] v
  return {
    user := ← r.withDefault "user" UserSnapshot.ofJson? .empty
    userLocation := ← r.withDefault "user_location" UserLocation.ofJson? .origin
    vars := ← r.withDefault "vars" (Decode.dict Decode.any) .empty
    skip := ← r.withDefault "skip" (Decode.dict Decode.uint32) .empty
    attempt := ← r.withDefault "attempt" Decode.uint32 0
    nlp := ← r.optional "nlp" Nlp.Parse.ofJson?
    payload := ← r.optional "payload" Payload.ofJson?
    channel := ← r.optional "channel" Decode.text
    text := ← r.optional "text" Decode.text }

/-- The JSON form of a context. -/
def toJson (c : Context) : Json :=
  .record [("user", c.user.toJson), ("user_location", c.userLocation.toJson),
    ("vars", .ofDict c.vars), ("skip", .ofDict (c.skip.map fun n => .nat n.toNat)),
    ("attempt", .nat c.attempt.toNat), ("nlp", Json.orNull Nlp.Parse.toJson c.nlp),
    ("payload", Json.orNull Payload.toJson c.payload),
    ("channel", Json.orNull .str c.channel), ("text", Json.orNull .str c.text)]

end Context

end Chatflow
