import Chatflow.Proofs.Conversation.Encoding
import Chatflow.Proofs.Widget.Grammar

/-!
# Widget events as they are written

An event that was read from a value is read again from the value that it is written as
(`Event.parse_toJson`), provided that a place in it is finite. So there is one way in which an event
is written, in whatever way it was given: with its type as a name and its data as an object, with
the ids, the size and the name that it has and without those that it does not have. What is written
is a value; the text of the value does not come into it.

Nothing is decoded here. The grammar of widget events says what is read as what, so it is enough
that the value which an event is written as is what the grammar asks for that event
(`Widget.Event.IsReadFrom.toJson`). A message is of the type of no status and a status of the type
of no message, and something unknown is written as it came.
-/

namespace Chatflow

namespace Json

/-- An object that is written gives its fields by their names. -/
theorem given?_record (fields : List (String × Json)) (names : List String) (name : String) :
    (record fields).given? names name = Dict.findEntry name fields.reverse :=
  get?_record fields name

theorem isFor?_map {α : Type} (write : α → Json) (x : Option α) : IsFor? write (x.map write) x := by
  cases x with
  | none => exact .inl rfl
  | some a => rfl

theorem isNumber_ofFloat {x : Float} (h : x.isFinite = true) : (ofFloat x).IsNumber x :=
  .inl (if_pos h)

end Json

namespace Widget

/-! ### Messages -/

/-- The place of a location is finite. -/
def Body.IsFinite : Body → Prop
  | .location c => c.IsFinite
  | .text _ | .quickReply _ _ | .postback _ _ | .file _ _ _ _ => True

/-- A place that is sent is finite. -/
def Event.IsFinite (e : Event) : Prop := ∀ b ∈ e.body?, b.IsFinite

theorem Body.type_mem (b : Body) : b.type ∈ types := by cases b <;> simp [type, types]

/-- The data of a body are an object. -/
theorem Body.given?_dataJson (b : Body) (names : List String) (name : String) :
    b.dataJson.given? names name = b.dataJson.get? name := by
  cases b <;> rfl

/-- The data of a file hold its size and its name if it has them. -/
theorem Body.get?_dataJson_file (kind url : String) (size : Option UInt64) (name : Option String) :
    (file kind url size name).dataJson.get? "size" = size.map (fun n => .nat n.toNat) ∧
      (file kind url size name).dataJson.get? "name" = name.map .str := by
  constructor <;> simp [dataJson, Json.get?_record]

/-- **What a body is written as says what the body says.** -/
theorem Body.isSaidBy_dataJson {b : Body} (h : b.IsFinite) : b.IsSaidBy b.dataJson := by
  cases b with
  | text t => simp [IsSaidBy, dataJson, Json.given?_record]
  | quickReply t p | postback t p => constructor <;> simp [dataJson, Json.given?_record]
  | location c =>
    refine ⟨_, Json.given?_record _ _ _, ⟨_, Json.given?_record _ _ _, ?_⟩,
      ⟨_, Json.given?_record _ _ _, ?_⟩⟩
    · exact Json.isNumber_ofFloat h.1
    · exact Json.isNumber_ofFloat h.2
  | file kind url size name =>
    obtain ⟨hsize, hname⟩ := get?_dataJson_file kind url size name
    constructor
    · simp [dataJson, Json.given?_record]
    · simp [dataJson, Json.given?_record]
    · rw [given?_dataJson, hsize]
      exact Json.isFor?_map _ size
    · rw [given?_dataJson, hname]
      exact Json.isFor?_map _ name

namespace Message

variable (m : Message)

theorem get?_toJson_type : m.toJson.get? "type" = some (.str m.body.type) := by
  simp [toJson, Json.get?_record]

theorem get?_toJson_data : m.toJson.get? "data" = some m.body.dataJson := by
  simp [toJson, Json.get?_record]

/-- The ids are written if there are any. -/
theorem get?_toJson_ids :
    m.toJson.get? "mid" = m.mid.map .str ∧ m.toJson.get? "author" = m.author.map .str := by
  constructor <;> simp [toJson, Json.get?_record]

/-- **A message is written as that message.** -/
theorem isMessage_toJson {m : Message} (h : m.body.IsFinite) : IsMessage m.toJson m := by
  obtain ⟨hmid, hauthor⟩ := m.get?_toJson_ids
  refine ⟨.inl ⟨m.get?_toJson_type, m.body.type_mem⟩, ⟨_, m.get?_toJson_data, ?_⟩, ?_, ?_⟩
  · exact Body.isSaidBy_dataJson h
  · exact hmid ▸ Json.isFor?_map _ m.mid
  · exact hauthor ▸ Json.isFor?_map _ m.author

end Message

/-! ### Statuses -/

namespace Status

theorem type_mem (s : Status) : s.type ∈ types := by cases s <;> simp [type, types]

theorem get?_toJson_type (s : Status) : s.toJson.get? "type" = some (.str s.type) := by
  cases s <;> simp [toJson, type, Json.get?_record]

/-- **A status is written as that status**, if it was read from a value, so that its watermark has
64 bits. -/
theorem isStatus_toJson {raw : Json} {s : Status} (h : IsStatus raw s) : IsStatus s.toJson s := by
  refine ⟨.inl ⟨s.get?_toJson_type, s.type_mem⟩, ?_⟩
  cases s with
  | delivery mid => simp [IsSaidBy, toJson, Json.get?_record]
  | read watermark => exact ⟨by simp [toJson, Json.get?_record], h.said.2⟩
  | typing => trivial

/-- A status is not written as a message. -/
theorem not_isMessage_toJson {raw : Json} {s : Status} (h : IsStatus raw s) (m : Message) :
    ¬ IsMessage s.toJson m := by
  refine not_isMessage_of_isStatus (fun n hn => ?_) (isStatus_toJson h) m
  rw [get?_toJson_type] at hn
  cases hn

end Status

/-! ### Events -/

/-- **An event that was read is written as that event.** -/
theorem Event.IsReadFrom.toJson {raw : Json} {e : Event} (h : e.IsReadFrom raw)
    (hfinite : e.IsFinite) : e.IsReadFrom e.toJson := by
  cases e with
  | message m => exact Message.isMessage_toJson (hfinite _ rfl)
  | status s => exact ⟨Status.isStatus_toJson h.1, Status.not_isMessage_toJson h.1⟩
  | unknown v => exact ⟨rfl, h.1 ▸ h.2⟩

end Widget

namespace Event

/-- A value that is passed on came by a channel of a widget. -/
theorem exists_channelName_of_parse {channel : String} {raw : Json} {event : Event}
    (h : parse channel raw = .ok event) : ∃ site : Widget.Site, channel = site.channelName := by
  by_contra hnone
  obtain ⟨reason, herror⟩ := parse_of_ne (not_exists.mp hnone) raw
  rw [h] at herror
  cases herror

/-- **Events survive being written.** What an event is written as is accepted on the same channel
and gives the event again. The ids of a message, and the size and the name of a file, are written
exactly if there are any, and something unknown is written as the value it came as. -/
theorem parse_toJson {channel : String} {raw : Json} {event : Event}
    (h : parse channel raw = .ok event) (hfinite : event.widget.IsFinite) :
    parse channel event.widget.toJson = .ok event ∧
      (∀ m, event.widget = .message m →
        event.widget.toJson.get? "mid" = m.mid.map .str ∧
        event.widget.toJson.get? "author" = m.author.map .str) ∧
      (∀ kind url size name, event.widget.body? = some (.file kind url size name) →
        ∃ data, event.widget.toJson.get? "data" = some data ∧
          data.get? "size" = size.map (fun n => .nat n.toNat) ∧
          data.get? "name" = name.map .str) ∧
      ∀ v, event.widget = .unknown v → event.widget.toJson = raw := by
  obtain ⟨site, rfl⟩ := exists_channelName_of_parse h
  obtain ⟨e, rfl, he⟩ := parse_eq_ok_iff.mp h
  refine ⟨parse_eq_ok_iff.mpr ⟨e, rfl, he.toJson hfinite⟩, ?_, ?_, ?_⟩
  · rintro m rfl
    exact m.get?_toJson_ids
  · intro kind url size name hbody
    obtain ⟨m, rfl, hm⟩ : ∃ m, e = .message m ∧ m.body = .file kind url size name := by
      cases e <;> simp_all [Widget.Event.body?, Widget.Event.message?]
    refine ⟨_, m.get?_toJson_data, ?_⟩
    rw [hm]
    exact Widget.Body.get?_dataJson_file kind url size name
  · rintro v rfl
    exact he.1

end Event

namespace Sample

/-- A place whose type is given by its number and whose numbers are given in order. -/
def numberedPlace : Json :=
  .obj [("author", .str "ann"), ("data", .obj [("coordinates", .arr [.real 48.5, .real 2.25])]),
    ("mid", .null), ("type", .int 3)]

end Sample

namespace Event

/-- The place is written by names, without the id that it does not have. -/
theorem parse_toJson_place :
    ∃ event, parse "web-channel" Sample.numberedPlace = .ok event ∧ event.widget.IsFinite ∧
      event.widget.toJson = .obj [("author", .str "ann"),
        ("data", .obj [("coordinates", .obj [("lat", .real 48.5), ("lng", .real 2.25)])]),
        ("type", .str "location")] ∧
      parse "web-channel" event.widget.toJson = .ok event := by
  have hread : parse "web-channel" Sample.numberedPlace =
      .ok ⟨.web, .message ⟨.location ⟨48.5, 2.25⟩, none, some "ann"⟩, none, none⟩ := rfl
  have hfinite : Widget.Event.IsFinite (.message ⟨.location ⟨48.5, 2.25⟩, none, some "ann"⟩) := by
    intro b hb
    obtain rfl := Option.some.inj hb
    exact ⟨by decide +kernel, by decide +kernel⟩
  exact ⟨_, hread, hfinite, by decide +kernel, (parse_toJson hread hfinite).1⟩

end Event

end Chatflow
