import Chatflow.Bot.World

/-!
# Reports

What happened in a world since an earlier one, in JSON form: the records as they are now, the
messages sent and delivered, the telemetry, and the texts given to the language service.
-/

namespace Chatflow

namespace World

/-- The messages that recorders accepted since an earlier world. -/
def recordedSince (w earlier : World) : List Sent :=
  (w.journal.drop earlier.journal.length).filter fun s =>
    decide (w.channels.find? s.channel = some .recorder)

/-- What waits in some channels, with the name of the channel. -/
def waiting (w : World) (channels : List String) : List (String × Widget.Delivery) :=
  channels.flatMap fun name =>
    (((w.channels.find? name).map Channel.deliveries).getD []).map (name, ·)

/-- The world with nothing left to pick up. -/
def collected (w : World) : World := { w with channels := w.channels.map Channel.emptied }

/-- The JSON form of a delivery with the name of its channel. -/
def deliveryJson (d : String × Widget.Delivery) : Json :=
  .record (("channel", .str d.1) :: d.2.fields)

/-- A field with some items, left out if there are none. -/
def itemsField (name : String) (items : List Json) : List (String × Json) :=
  if items.isEmpty then [] else [(name, .arr items)]

/-- What happened since an earlier world, with what waits in some channels. -/
def report (w earlier : World) (channels : List String) : List (String × Json) :=
  [("conversations", .ofDict (w.conversations.records.map fun c => .record c.outlineFields)),
    ("subscribers", .ofDict (w.subscribers.records.map Subscriber.toJson))] ++
  itemsField "sent" ((w.recordedSince earlier).map Sent.toJson) ++
  itemsField "deliveries" ((w.waiting channels).map deliveryJson) ++
  itemsField "telemetry"
    ((w.telemetry.drop earlier.telemetry.length).map Telemetry.Event.toJson) ++
  itemsField "nlu_calls" ((w.asked.drop earlier.asked.length).map .str)

end World

end Chatflow
