import Chatflow.Json.Decode

/-!
# Subscribers

The people the bot talks to. A subscriber is known by an id of its own and by the pair of its
channel and the id it has there.
-/

namespace Chatflow

/-- Someone the bot talks to. -/
structure Subscriber where
  /-- The id of the record. -/
  id : String
  /-- The id on the channel. -/
  foreignId : String
  /-- The first name. -/
  firstName : String
  /-- The last name. -/
  lastName : String
  /-- The language, when one is known. -/
  language : Option String
  /-- The labels given so far. -/
  labels : List String
  /-- The agent it was handed over to. -/
  assignedTo : Option String
  /-- The channel it writes on. -/
  channel : String
  /-- The variables kept across conversations. -/
  vars : Dict Json
  deriving DecidableEq

namespace Subscriber

/-- A subscriber of whom only the ids are known. -/
def fresh (id foreignId channel : String) : Subscriber where
  id := id
  foreignId := foreignId
  firstName := ""
  lastName := ""
  language := none
  labels := []
  assignedTo := none
  channel := channel
  vars := .empty

/-- Whether the subscriber has one of the labels. -/
def hasAnyLabel (s : Subscriber) (labels : List String) : Bool :=
  labels.any s.labels.contains

/-- Reads a subscriber. -/
def ofJson? : Decoder Subscriber := fun v => do
  let r ← Record.ofJson?
    ["id", "foreign_id", "first_name", "last_name", "language", "labels", "assigned_to",
      "channel", "context"] v
  return {
    id := ← r.required "id" Decode.text
    foreignId := ← r.required "foreign_id" Decode.text
    firstName := ← r.withDefault "first_name" Decode.text ""
    lastName := ← r.withDefault "last_name" Decode.text ""
    language := ← r.optional "language" Decode.text
    labels := ← r.withDefault "labels" (Decode.list Decode.text) []
    assignedTo := ← r.optional "assigned_to" Decode.text
    channel := ← r.required "channel" Decode.text
    vars := ← r.withDefault "context" (fun v => do
      (← Record.ofJson? ["vars"] v).withDefault "vars" (Decode.dict Decode.any) .empty) .empty }

/-- The JSON form of a subscriber. -/
def toJson (s : Subscriber) : Json :=
  .record [("id", .str s.id), ("foreign_id", .str s.foreignId),
    ("first_name", .str s.firstName), ("last_name", .str s.lastName),
    ("language", Json.orNull .str s.language), ("labels", .texts s.labels),
    ("assigned_to", Json.orNull .str s.assignedTo), ("channel", .str s.channel),
    ("context", .record [("vars", .ofDict s.vars)])]

end Subscriber

end Chatflow
