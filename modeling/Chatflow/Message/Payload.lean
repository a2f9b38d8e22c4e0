import Chatflow.Json.Decode

/-!
# Payloads

What comes back when the subscriber presses a button, sends a place or uploads a file.
-/

namespace Chatflow

/-- A place on the globe. -/
structure Coordinates where
  /-- The latitude. -/
  lat : Float
  /-- The longitude. -/
  lon : Float
  deriving DecidableEq, Repr

namespace Coordinates

/-- Reads a place. -/
def ofJson? : Decoder Coordinates := fun v => do
  let r ← Record.ofJson? ["lat", "lon"] v
  return ⟨← r.required "lat" Decode.float, ← r.required "lon" Decode.float⟩

/-- The JSON form of a place. -/
def toJson (c : Coordinates) : Json :=
  .record [("lat", .ofFloat c.lat), ("lon", .ofFloat c.lon)]

end Coordinates

/-- A file that a subscriber sent: its kind (`image`, `video`, …) and where it lies. -/
structure FileRef where
  /-- The kind of the file. -/
  kind : String
  /-- Where the file lies. -/
  url : String
  deriving DecidableEq, Repr

namespace FileRef

/-- Reads a file reference; the address stands in a record of its own. -/
def ofJson? : Decoder FileRef := fun v => do
  let r ← Record.ofJson? ["type", "payload"] v
  let kind ← r.required "type" Decode.text
  let url ← r.required "payload" fun v => do
    (← Record.ofJson? ["url"] v).required "url" Decode.text
  return ⟨kind, url⟩

/-- The JSON form of a file reference. -/
def toJson (f : FileRef) : Json :=
  .record [("type", .str f.kind), ("payload", .record [("url", .str f.url)])]

end FileRef

/-- What an interaction other than typing carries. -/
inductive Payload where
  /-- The code of a button or quick reply. -/
  | code (code : String)
  | location (coordinates : Coordinates)
  | attachments (file : FileRef)
  deriving DecidableEq, Repr

namespace Payload

/-- The code of a button or quick reply. -/
def code? : Payload → Option String
  | .code c => some c
  | _ => none

/-- The type of a payload that is not a code. -/
def typeName? : Payload → Option String
  | .code _ => none
  | .location _ => some "location"
  | .attachments _ => some "attachments"

/-- The JSON form of a payload: a code is a string, the others are tagged by their type. -/
def toJson : Payload → Json
  | .code c => .str c
  | .location c => .record [("type", .str "location"), ("coordinates", c.toJson)]
  | .attachments f => .record [("type", .str "attachments"), ("attachments", f.toJson)]

/-- Reads a payload. -/
def ofJson? : Decoder Payload
  | .str c => some (.code c)
  | v => do
    let (kind, rest) ← splitTag "type" ["location", "attachments"] true v
    if kind = "location" then
      let r ← Record.ofJson? ["coordinates"] rest
      return .location (← r.required "coordinates" Coordinates.ofJson?)
    else
      let r ← Record.ofJson? ["attachments"] rest
      return .attachments (← r.required "attachments" FileRef.ofJson?)

end Payload

/-- The payload that asks for the next page of a list or carousel. -/
def viewMore : String := "VIEW_MORE"

end Chatflow
