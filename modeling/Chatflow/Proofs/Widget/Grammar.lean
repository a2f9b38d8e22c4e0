import Chatflow.Event
import Chatflow.Proofs.Json.Fields

/-!
# The grammar of widget events

What a widget sends is a message, a status, something unknown, or an error
(`Event.parse_grammar`), and which of them it is is said here field by field: `Widget.IsMessage`,
`Widget.IsStatus`, `Widget.IsUnknown`.

The type of an event is one of eight names. It also counts as given by the number of its name among
those of the messages, or among those of the statuses (`Json.HasType`); so an event whose type is
such a number may be read as a message or a status. Where it is not a number the eight names alone
decide what is unknown: `Widget.isUnknown_iff`.
-/

namespace Chatflow

namespace Widget

/-! ### Messages and statuses -/

/-- The data of a button or a quick reply give its text and its payload. -/
structure IsPress (data : Json) (text payload : String) : Prop where
  text : data.given? ["text", "payload"] "text" = some (.str text)
  payload : data.given? ["text", "payload"] "payload" = some (.str payload)

/-- A value gives a place by two numbers, of which the longitude is called `lng`. -/
structure IsPlace (place : Json) (c : Coordinates) : Prop where
  lat : ∃ v, place.given? ["lat", "lng"] "lat" = some v ∧ v.IsNumber c.lat
  lng : ∃ v, place.given? ["lat", "lng"] "lng" = some v ∧ v.IsNumber c.lon

/-- The data of a file give its kind, which is called `type`, and where it lies; a size and a name
may be missing. -/
structure IsFile (data : Json) (kind url : String) (size : Option UInt64) (name : Option String) :
    Prop where
  kind : data.given? ["type", "url", "size", "name"] "type" = some (.str kind)
  url : data.given? ["type", "url", "size", "name"] "url" = some (.str url)
  size : Json.IsFor? (fun n : UInt64 => .nat n.toNat)
    (data.given? ["type", "url", "size", "name"] "size") size
  name : Json.IsFor? .str (data.given? ["type", "url", "size", "name"] "name") name

/-- The data of a message say what its body says. -/
def Body.IsSaidBy (data : Json) : Body → Prop
  | .text t => data.given? ["text"] "text" = some (.str t)
  | .quickReply t p => IsPress data t p
  | .postback t p => IsPress data t p
  | .location c => ∃ place, data.given? ["coordinates"] "coordinates" = some place ∧ IsPlace place c
  | .file kind url size name => IsFile data kind url size name

/-- A value is a message: it names the type of the body, its data say what the body says, and the
ids are texts if they are given. -/
structure IsMessage (raw : Json) (m : Message) : Prop where
  type : raw.HasType Body.types m.body.type
  data : ∃ data, raw.get? "data" = some data ∧ m.body.IsSaidBy data
  mid : Json.IsFor? .str (raw.get? "mid") m.mid
  author : Json.IsFor? .str (raw.get? "author") m.author

/-- The type of a status. -/
def Status.type : Status → String
  | .delivery _ => "delivery"
  | .read _ => "read"
  | .typing => "typing"

/-- The fields of a value say what a status says. -/
def Status.IsSaidBy (raw : Json) : Status → Prop
  | .delivery mid => raw.get? "mid" = some (.str mid)
  | .read watermark => raw.get? "watermark" = some (.int watermark) ∧
      -9223372036854775808 ≤ watermark ∧ watermark < 9223372036854775808
  | .typing => True

/-- A value is a status: it names the type of the status, and its fields say the rest. -/
structure IsStatus (raw : Json) (s : Status) : Prop where
  type : raw.HasType Status.types s.type
  said : s.IsSaidBy raw

/-- A value is an object of no known type, nor is its type a number by which it reads as a message
or a status. -/
structure IsUnknown (raw : Json) : Prop where
  isObject : raw.isObject = true
  type : ∀ name ∈ Event.known, raw.get? "type" ≠ some (.str name)
  message : ∀ m, ¬ IsMessage raw m
  status : ∀ s, ¬ IsStatus raw s

/-! ### Readers of the data -/

namespace Body

theorem readPressed_eq_some_iff {v : Json} {p : String × String} :
    readPressed v = some p ↔ IsPress v p.1 p.2 := by
  refine Record.bind_ofJson?_eq_some_iff (fun h => ⟨_, _, h.text⟩) fun r hfind => ?_
  change ((r.required "text" Decode.text).bind fun t =>
    (r.required "payload" Decode.text).bind fun p => some (t, p)) = some p ↔ _
  simp only [Option.bind_eq_some_iff, Record.required_eq_some_iff Decode.inverts_text,
    hfind "text" (by decide), hfind "payload" (by decide)]
  constructor
  · rintro ⟨t, htext, p, hpayload, hp⟩
    cases hp
    exact ⟨htext, hpayload⟩
  · rintro ⟨htext, hpayload⟩
    exact ⟨_, htext, _, hpayload, rfl⟩

theorem readPlace_eq_some_iff {v : Json} {c : Coordinates} :
    readPlace v = some c ↔
      ∃ place, v.given? ["coordinates"] "coordinates" = some place ∧ IsPlace place c := by
  refine Record.bind_ofJson?_eq_some_iff (fun ⟨place, h, _⟩ => ⟨_, _, h⟩) fun r hfind => ?_
  rw [Record.required, hfind _ (by decide), Option.bind_eq_some_iff]
  refine exists_congr fun place => and_congr_right fun _ => ?_
  refine Record.bind_ofJson?_eq_some_iff (fun h => ⟨_, h.lat.imp fun _ => And.left⟩)
    fun r hfind => ?_
  change ((r.required "lat" Decode.float).bind fun lat =>
    (r.required "lng" Decode.float).bind fun lng => some ⟨lat, lng⟩) = some c ↔ _
  simp only [Option.bind_eq_some_iff, Record.required, Decode.float_eq_some_iff,
    hfind "lat" (by decide), hfind "lng" (by decide)]
  constructor
  · rintro ⟨lat, hlat, lng, hlng, hc⟩
    cases hc
    exact ⟨hlat, hlng⟩
  · rintro ⟨hlat, hlng⟩
    exact ⟨_, hlat, _, hlng, rfl⟩

theorem ofData?_text_eq_some_iff {v : Json} {b : Body} :
    ofData? "text" v = some b ↔ ∃ t, v.given? ["text"] "text" = some (.str t) ∧ .text t = b := by
  refine Record.bind_ofJson?_eq_some_iff (fun ⟨t, h, _⟩ => ⟨_, _, h⟩) fun r hfind => ?_
  change ((r.required "text" Decode.text).bind fun t => some (.text t)) = some b ↔ _
  simp only [Option.bind_eq_some_iff, Record.required_eq_some_iff Decode.inverts_text,
    hfind "text" (by decide), Option.some.injEq]

theorem ofData?_file_eq_some_iff {v : Json} {b : Body} :
    ofData? "file" v = some b ↔
      ∃ kind url size name, IsFile v kind url size name ∧ b = .file kind url size name := by
  refine Record.bind_ofJson?_eq_some_iff (fun ⟨_, _, _, _, h, _⟩ => ⟨_, _, h.kind⟩)
    fun r hfind => ?_
  change ((r.required "type" Decode.text).bind fun kind =>
    (r.required "url" Decode.text).bind fun url =>
      (r.optional "size" Decode.uint64).bind fun size =>
        (r.optional "name" Decode.text).bind fun name => some (.file kind url size name)) =
    some b ↔ _
  simp only [Option.bind_eq_some_iff, Record.required_eq_some_iff Decode.inverts_text,
    Record.optional_eq_some_iff Decode.inverts_text fun _ => Json.noConfusion,
    Record.optional_eq_some_iff Decode.inverts_uint64 fun _ => Json.noConfusion,
    hfind "type" (by decide), hfind "url" (by decide), hfind "size" (by decide),
    hfind "name" (by decide)]
  constructor
  · rintro ⟨kind, hkind, url, hurl, size, hsize, name, hname, hb⟩
    cases hb
    exact ⟨kind, url, size, name, ⟨hkind, hurl, hsize, hname⟩, rfl⟩
  · rintro ⟨kind, url, size, name, hfile, rfl⟩
    exact ⟨kind, hfile.kind, url, hfile.url, size, hfile.size, name, hfile.name, rfl⟩

/-- **What is read of the data** is a body of the type, and the data say what it says. -/
theorem ofData?_eq_some_iff {type : String} {v : Json} {b : Body} :
    ofData? type v = some b ↔ type = b.type ∧ b.IsSaidBy v := by
  unfold ofData?
  split
  · refine ofData?_text_eq_some_iff.trans ?_
    cases b <;> simp [Body.type, IsSaidBy]
  · rw [Option.map_eq_some_iff]
    simp only [readPressed_eq_some_iff]
    cases b <;> simp [Body.type, IsSaidBy]
  · rw [Option.map_eq_some_iff]
    simp only [readPressed_eq_some_iff]
    cases b <;> simp [Body.type, IsSaidBy]
  · rw [Option.map_eq_some_iff]
    simp only [readPlace_eq_some_iff]
    cases b <;> simp [Body.type, IsSaidBy]
  · refine ofData?_file_eq_some_iff.trans ?_
    cases b <;> simp [Body.type, IsSaidBy]
  · rename_i htext hreply hpostback hlocation hfile
    refine iff_of_false (fun h => ?_) fun h => ?_
    · cases h
    · cases b with
      | text => exact htext h.1
      | quickReply => exact hreply h.1
      | postback => exact hpostback h.1
      | location => exact hlocation h.1
      | file => exact hfile h.1

end Body

/-! ### Readers of messages and statuses -/

/-- **What is read as a message.** -/
theorem Message.ofJson?_eq_some_iff {raw : Json} {m : Message} :
    Message.ofJson? raw = some m ↔ IsMessage raw m := by
  cases raw with
  | obj fields =>
    have hread : Message.ofJson? (.obj fields) =
        (splitTag "type" Body.types true (.obj fields)).bind fun p =>
          ((p.2.get? "data").bind (Body.ofData? p.1)).bind fun body =>
            ((Record.mk fields false).optional "mid" Decode.text).bind fun mid =>
              ((Record.mk fields false).optional "author" Decode.text).bind fun author =>
                some ⟨body, mid, author⟩ := rfl
    simp only [hread, Option.bind_eq_some_iff,
      Record.optional_eq_some_iff Decode.inverts_text fun _ => Json.noConfusion]
    constructor
    · rintro ⟨⟨type, rest⟩, hsplit, body, hbody, mid, hmid, author, hauthor, hm⟩
      obtain ⟨htype, rfl⟩ := splitTag_obj_eq_some_iff.mp hsplit
      cases hm
      obtain ⟨v, hv, hdata⟩ := hbody
      rw [get?_filter_ne (by decide)] at hv
      obtain ⟨rfl, hsaid⟩ := Body.ofData?_eq_some_iff.mp hdata
      exact ⟨htype, ⟨v, hv, hsaid⟩, hmid, hauthor⟩
    · rintro ⟨htype, ⟨v, hv, hsaid⟩, hmid, hauthor⟩
      refine ⟨_, splitTag_obj_eq_some_iff.mpr ⟨htype, rfl⟩, _,
        ⟨v, ?_, Body.ofData?_eq_some_iff.mpr ⟨rfl, hsaid⟩⟩, _, hmid, _, hauthor, rfl⟩
      rwa [get?_filter_ne (by decide)]
  | _ =>
    refine iff_of_false (fun h => ?_) fun h => ?_
    · cases h
    · have hobject := Json.isObject_of_hasType h.type
      cases hobject

theorem Status.ofRest?_eq_some_iff {type : String} {fields : List (String × Json)} {s : Status} :
    ofRest? type (.obj fields) = some s ↔ type = s.type ∧ s.IsSaidBy (.obj fields) := by
  unfold ofRest?
  split
  · change (((Record.mk fields false).required "mid" Decode.text).bind fun mid =>
      some (.delivery mid)) = some s ↔ _
    simp only [Option.bind_eq_some_iff, Record.required_eq_some_iff Decode.inverts_text]
    cases s <;> simp [Status.type, IsSaidBy, Record.find?, Json.get?]
  · change (((Record.mk fields false).required "watermark" Decode.int64).bind fun watermark =>
      some (.read watermark)) = some s ↔ _
    simp only [Record.required, Option.bind_eq_some_iff, Decode.int64, Decode.whole_eq_some_iff]
    cases s <;> simp [Status.type, IsSaidBy, Record.find?, Json.get?]
  · cases s <;> simp [Status.type, IsSaidBy, Record.ofJson?]
  · rename_i hdelivery hread htyping
    refine iff_of_false (fun h => ?_) fun h => ?_
    · cases h
    · cases s with
      | delivery => exact hdelivery h.1
      | read => exact hread h.1
      | typing => exact htyping h.1

/-- Taking out the tag of an object leaves what a status is said by. -/
theorem Status.isSaidBy_filter {fields : List (String × Json)} {s : Status} :
    s.IsSaidBy (.obj (fields.filter (·.1 ≠ "type"))) ↔ s.IsSaidBy (.obj fields) := by
  cases s with
  | delivery => rw [IsSaidBy, IsSaidBy, get?_filter_ne (by decide)]
  | read => rw [IsSaidBy, IsSaidBy, get?_filter_ne (by decide)]
  | typing => rfl

/-- **What is read as a status**, of the objects. -/
theorem Status.ofJson?_eq_some_iff {fields : List (String × Json)} {s : Status} :
    Status.ofJson? (.obj fields) = some s ↔ IsStatus (.obj fields) s := by
  have hread : Status.ofJson? (.obj fields) =
      (splitTag "type" Status.types true (.obj fields)).bind fun p => ofRest? p.1 p.2 := rfl
  rw [hread, Option.bind_eq_some_iff]
  constructor
  · rintro ⟨⟨type, rest⟩, hsplit, hrest⟩
    obtain ⟨htype, rfl⟩ := splitTag_obj_eq_some_iff.mp hsplit
    obtain ⟨rfl, hsaid⟩ := ofRest?_eq_some_iff.mp hrest
    exact ⟨htype, isSaidBy_filter.mp hsaid⟩
  · rintro ⟨htype, hsaid⟩
    exact ⟨_, splitTag_obj_eq_some_iff.mpr ⟨htype, rfl⟩,
      ofRest?_eq_some_iff.mpr ⟨rfl, isSaidBy_filter.mpr hsaid⟩⟩

/-! ### Unknown events -/

/-- Where the type is not given by a number, it is given by its name. -/
theorem get?_type_of_hasType {raw : Json} {names : List String} {name : String}
    (h : ∀ n : Nat, raw.get? "type" ≠ some (.int n)) (htype : raw.HasType names name) :
    raw.get? "type" = some (.str name) ∧ name ∈ names := by
  obtain htype | ⟨n, hv, -⟩ := htype
  · exact htype
  · exact absurd hv (h n)

/-- The type of a message is none of a status. -/
theorem not_isMessage_of_isStatus {raw : Json} {s : Status}
    (h : ∀ n : Nat, raw.get? "type" ≠ some (.int n)) (hs : IsStatus raw s) (m : Message) :
    ¬ IsMessage raw m := by
  intro hm
  obtain ⟨hmessage, hmem⟩ := get?_type_of_hasType h hm.type
  obtain ⟨hstatus, -⟩ := get?_type_of_hasType h hs.type
  rw [hmessage] at hstatus
  rw [Json.str.inj (Option.some.inj hstatus)] at hmem
  cases s <;> simp [Status.type, Body.types] at hmem

/-- Where the type is not given by a number, only a name of the eight makes a value known. -/
theorem isUnknown_iff {raw : Json} (h : ∀ n : Nat, raw.get? "type" ≠ some (.int n)) :
    IsUnknown raw ↔ raw.isObject = true ∧ ∀ name ∈ Event.known,
      raw.get? "type" ≠ some (.str name) := by
  refine ⟨fun hu => ⟨hu.isObject, hu.type⟩, fun ⟨hobject, htype⟩ => ⟨hobject, htype, ?_, ?_⟩⟩
  · intro m hm
    obtain ⟨hv, hmem⟩ := get?_type_of_hasType h hm.type
    exact htype _ (List.mem_append_left _ hmem) hv
  · intro s hs
    obtain ⟨hv, hmem⟩ := get?_type_of_hasType h hs.type
    exact htype _ (List.mem_append_right _ hmem) hv

/-- What an event says of the value it was read from. -/
def Event.IsReadFrom (raw : Json) : Event → Prop
  | .message m => IsMessage raw m
  | .status s => IsStatus raw s ∧ ∀ m, ¬ IsMessage raw m
  | .unknown v => v = raw ∧ IsUnknown raw

theorem Event.isObject_of_isReadFrom {raw : Json} {e : Event} (h : e.IsReadFrom raw) :
    raw.isObject = true := by
  cases e with
  | message m => exact Json.isObject_of_hasType h.type
  | status s => exact Json.isObject_of_hasType h.1.type
  | unknown v => exact h.2.isObject

/-- A value is read as one event at most. -/
theorem Event.IsReadFrom.unique {raw : Json} {e e' : Event} (h : e.IsReadFrom raw)
    (h' : e'.IsReadFrom raw) : e = e' := by
  obtain ⟨fields, rfl⟩ : ∃ fields, raw = .obj fields := by
    have hobject := isObject_of_isReadFrom h
    cases raw <;> simp [Json.isObject] at hobject ⊢
  cases e with
  | message m =>
    cases e' with
    | message m' =>
      have hm := Message.ofJson?_eq_some_iff.mpr h
      rw [Message.ofJson?_eq_some_iff.mpr h'] at hm
      rw [Option.some.inj hm]
    | status s => exact absurd h (h'.2 m)
    | unknown v => exact absurd h (h'.2.message m)
  | status s =>
    cases e' with
    | message m => exact absurd h' (h.2 m)
    | status s' =>
      have hs := Status.ofJson?_eq_some_iff.mpr h.1
      rw [Status.ofJson?_eq_some_iff.mpr h'.1] at hs
      rw [Option.some.inj hs]
    | unknown v => exact absurd h.1 (h'.2.status s)
  | unknown v =>
    cases e' with
    | message m => exact absurd h' (h.2.message m)
    | status s => exact absurd h'.1 (h.2.status s)
    | unknown v' => rw [h.1, h'.1]

/-- What an object is read as, before its type is held against the known ones. -/
theorem Event.ofJson_cases (fields : List (String × Json)) :
    (∃ m, ofJson (.obj fields) = .message m ∧ IsMessage (.obj fields) m) ∨
      (∀ m, ¬ IsMessage (.obj fields) m) ∧
        ((∃ s, ofJson (.obj fields) = .status s ∧ IsStatus (.obj fields) s) ∨
          ofJson (.obj fields) = .unknown (.obj fields) ∧ ∀ s, ¬ IsStatus (.obj fields) s) := by
  rw [ofJson]
  cases hm : Message.ofJson? (.obj fields) with
  | some m => exact .inl ⟨m, rfl, Message.ofJson?_eq_some_iff.mp hm⟩
  | none =>
    refine .inr ⟨fun m h => ?_, ?_⟩
    · rw [Message.ofJson?_eq_some_iff.mpr h] at hm
      cases hm
    · cases hs : Status.ofJson? (.obj fields) with
      | some s => exact .inl ⟨s, rfl, Status.ofJson?_eq_some_iff.mp hs⟩
      | none =>
        refine .inr ⟨rfl, fun s h => ?_⟩
        rw [Status.ofJson?_eq_some_iff.mpr h] at hs
        cases hs

end Widget

/-! ### Reading -/

namespace Event

/-- An object that is neither a message nor a status is unknown, unless its type is a known one. -/
theorem parseWidget_unread {fields : List (String × Json)}
    (hread : Widget.Event.ofJson (.obj fields) = .unknown (.obj fields)) :
    (∀ name ∈ Widget.Event.known, (Json.obj fields).get? "type" ≠ some (.str name)) ∧
        parseWidget (.obj fields) = .ok (.unknown (.obj fields)) ∨
      (∃ name ∈ Widget.Event.known, (Json.obj fields).get? "type" = some (.str name)) ∧
        ∃ reason, parseWidget (.obj fields) = .error (.parse reason) := by
  have hparse : parseWidget (.obj fields) =
      (((Json.obj fields).get? "type").bind Json.text?).elim (.ok (.unknown (.obj fields)))
        fun type =>
          if Widget.Event.known.contains type then
            .error (.parse ("malformed '" ++ type ++ "' event"))
          else .ok (.unknown (.obj fields)) := by
    rw [parseWidget, hread]
    dsimp only
    cases ((Json.obj fields).get? "type").bind Json.text? <;> rfl
  rw [hparse]
  cases htype : ((Json.obj fields).get? "type").bind Json.text? with
  | none =>
    refine .inl ⟨fun name _ h => ?_, rfl⟩
    rw [h] at htype
    cases htype
  | some type =>
    obtain ⟨v, hv, htext⟩ := Option.bind_eq_some_iff.mp htype
    obtain rfl : v = .str type := by cases v <;> simp_all [Json.text?]
    by_cases hknown : type ∈ Widget.Event.known
    · exact .inr ⟨⟨type, hknown, hv⟩, _, if_pos (List.contains_iff_mem.mpr hknown)⟩
    · refine .inl ⟨fun name hname h => ?_, if_neg (hknown ∘ List.contains_iff_mem.mp)⟩
      rw [hv] at h
      cases h
      exact hknown hname

/-- **A value is read as an event, or it is none and an error.** -/
theorem parseWidget_cases (raw : Json) :
    (∃ e : Widget.Event, parseWidget raw = .ok e ∧ e.IsReadFrom raw) ∨
      ∃ reason, parseWidget raw = .error (.parse reason) ∧
        ∀ e : Widget.Event, ¬ e.IsReadFrom raw := by
  cases hobject : raw.isObject with
  | false =>
    refine .inr ⟨"widget event must be a JSON object", by rw [parseWidget, hobject]; rfl, ?_⟩
    intro e he
    rw [Widget.Event.isObject_of_isReadFrom he] at hobject
    cases hobject
  | true =>
    obtain ⟨fields, rfl⟩ : ∃ fields, raw = .obj fields := by
      cases raw <;> simp [Json.isObject] at hobject ⊢
    obtain ⟨m, hread, hm⟩ | ⟨hmessage, ⟨s, hread, hs⟩ | ⟨hread, hstatus⟩⟩ :=
      Widget.Event.ofJson_cases fields
    · exact .inl ⟨.message m, by rw [parseWidget, hread]; rfl, hm⟩
    · exact .inl ⟨.status s, by rw [parseWidget, hread]; rfl, hs, hmessage⟩
    · obtain ⟨htype, hparse⟩ | ⟨⟨name, hname, htype⟩, reason, hparse⟩ := parseWidget_unread hread
      · exact .inl ⟨.unknown (.obj fields), hparse, rfl, rfl, htype, hmessage, hstatus⟩
      · refine .inr ⟨reason, hparse, fun e he => ?_⟩
        cases e with
        | message m => exact hmessage m he
        | status s => exact hstatus s he.1
        | unknown v => exact he.2.type name hname htype

/-- What is read from a value. -/
theorem parseWidget_eq_ok_iff {raw : Json} {e : Widget.Event} :
    parseWidget raw = .ok e ↔ e.IsReadFrom raw := by
  obtain ⟨e', hread, he'⟩ | ⟨reason, herror, hnone⟩ := parseWidget_cases raw
  · rw [hread]
    refine ⟨fun h => ?_, fun h => ?_⟩
    · cases h
      exact he'
    · rw [he'.unique h]
  · refine iff_of_false (fun h => ?_) (hnone e)
    rw [herror] at h
    cases h

/-- A channel of a widget passes on what is read. -/
theorem parse_channelName {site : Widget.Site} {raw : Json} :
    parse site.channelName raw = (parseWidget raw).map (⟨site, ·, none, none⟩) := by
  have hsite : Widget.Site.ofName? site.channelName = some site := by cases site <;> decide
  rw [parse]
  cases parseWidget raw with
  | error err => rfl
  | ok e =>
    simp only [hsite]
    rfl

/-- An event that a channel passes on is one read from the value. -/
theorem parse_eq_ok_iff {site : Widget.Site} {raw : Json} {event : Event} :
    parse site.channelName raw = .ok event ↔
      ∃ e : Widget.Event, event = ⟨site, e, none, none⟩ ∧ e.IsReadFrom raw := by
  rw [parse_channelName]
  constructor
  · intro h
    cases hread : parseWidget raw with
    | error err =>
      rw [hread] at h
      cases h
    | ok e =>
      rw [hread] at h
      cases h
      exact ⟨e, rfl, parseWidget_eq_ok_iff.mp hread⟩
  · rintro ⟨e, rfl, he⟩
    rw [parseWidget_eq_ok_iff.mpr he]
    rfl

/-- A value that is no event is an error. -/
theorem parse_eq_error_iff {site : Widget.Site} {raw : Json} :
    (∃ reason, parse site.channelName raw = .error (.parse reason)) ↔
      ∀ e : Widget.Event, ¬ e.IsReadFrom raw := by
  rw [parse_channelName]
  obtain ⟨e, hread, he⟩ | ⟨reason, herror, hnone⟩ := parseWidget_cases raw
  · refine iff_of_false (fun ⟨reason, h⟩ => ?_) (fun h => h e he)
    rw [hread] at h
    cases h
  · exact iff_of_true ⟨reason, by rw [herror]; rfl⟩ hnone

/-- There are no other channels. -/
theorem parse_of_ne {channel : String} (h : ∀ site : Widget.Site, channel ≠ site.channelName)
    (raw : Json) : ∃ reason, parse channel raw = .error (.parse reason) := by
  have hsite : Widget.Site.ofName? channel = none := by
    rw [Widget.Site.ofName?, if_neg (h .web), if_neg (h .console)]
  rw [parse]
  obtain ⟨e, hread, -⟩ | ⟨reason, herror, -⟩ := parseWidget_cases raw
  · refine ⟨"unknown channel '" ++ channel ++ "'", ?_⟩
    rw [hread]
    simp only [hsite]
    rfl
  · rw [herror]
    exact ⟨reason, rfl⟩

/-- **The grammar of widget events.** On a channel of a widget a value gives the message, the
status or the unknown event that it is, and an error if it is none; on any other channel it gives
an error. Where the type is not a number, the type of a message or a status is its name, and the
unknown events are the objects of which the type is none of the eight names. -/
theorem parse_grammar (raw : Json) :
    (∀ site : Widget.Site,
      (∀ event, parse site.channelName raw = .ok event ↔
        (∃ m, event = ⟨site, .message m, none, none⟩ ∧ Widget.IsMessage raw m) ∨
        (∃ s, event = ⟨site, .status s, none, none⟩ ∧ Widget.IsStatus raw s ∧
          ∀ m, ¬ Widget.IsMessage raw m) ∨
        event = ⟨site, .unknown raw, none, none⟩ ∧ Widget.IsUnknown raw) ∧
      ((∃ reason, parse site.channelName raw = .error (.parse reason)) ↔
        (∀ m, ¬ Widget.IsMessage raw m) ∧ (∀ s, ¬ Widget.IsStatus raw s) ∧
          ¬ Widget.IsUnknown raw)) ∧
    (∀ channel, (∀ site : Widget.Site, channel ≠ site.channelName) →
      ∃ reason, parse channel raw = .error (.parse reason)) ∧
    ((∀ n : Nat, raw.get? "type" ≠ some (.int n)) →
      (∀ m, Widget.IsMessage raw m → raw.get? "type" = some (.str m.body.type)) ∧
      (∀ s, Widget.IsStatus raw s →
        raw.get? "type" = some (.str s.type) ∧ ∀ m, ¬ Widget.IsMessage raw m) ∧
      (Widget.IsUnknown raw ↔ raw.isObject = true ∧
        ∀ name ∈ Widget.Event.known, raw.get? "type" ≠ some (.str name))) := by
  refine ⟨fun site => ⟨fun event => ?_, ?_⟩, fun channel hchannel => parse_of_ne hchannel raw,
    fun hnumber => ⟨fun m hm => ?_, fun s hs => ⟨?_, ?_⟩, Widget.isUnknown_iff hnumber⟩⟩
  · rw [parse_eq_ok_iff]
    constructor
    · rintro ⟨e, rfl, he⟩
      cases e with
      | message m => exact .inl ⟨m, rfl, he⟩
      | status s => exact .inr (.inl ⟨s, rfl, he⟩)
      | unknown v =>
        obtain ⟨rfl, hu⟩ := he
        exact .inr (.inr ⟨rfl, hu⟩)
    · rintro (⟨m, rfl, hm⟩ | ⟨s, rfl, hs⟩ | ⟨rfl, hu⟩)
      · exact ⟨.message m, rfl, hm⟩
      · exact ⟨.status s, rfl, hs⟩
      · exact ⟨.unknown raw, rfl, rfl, hu⟩
  · rw [parse_eq_error_iff]
    constructor
    · intro h
      have hmessage : ∀ m, ¬ Widget.IsMessage raw m := fun m => h (.message m)
      exact ⟨hmessage, fun s hs => h (.status s) ⟨hs, hmessage⟩,
        fun hu => h (.unknown raw) ⟨rfl, hu⟩⟩
    · rintro ⟨hmessage, hstatus, hunknown⟩ e he
      cases e with
      | message m => exact hmessage m he
      | status s => exact hstatus s he.1
      | unknown v => exact hunknown he.2
  · exact (Widget.get?_type_of_hasType hnumber hm.type).1
  · exact (Widget.get?_type_of_hasType hnumber hs.type).1
  · exact Widget.not_isMessage_of_isStatus hnumber hs

/-- An event without any of the eight names, that is not kept as unknown: its type is the number of
a name. -/
theorem parse_numbered :
    let raw : Json := .obj [("author", .str "u1"), ("data", .obj [("text", .str "hi")]),
      ("type", .int 0)]
    (∀ name ∈ Widget.Event.known, raw.get? "type" ≠ some (.str name)) ∧
      parse "web-channel" raw = .ok ⟨.web, .message ⟨.text "hi", none, some "u1"⟩, none, none⟩ ∧
      parse "web-channel" raw ≠ .ok ⟨.web, .unknown raw, none, none⟩ := by
  have hread : parse "web-channel" (.obj [("author", .str "u1"),
      ("data", .obj [("text", .str "hi")]), ("type", .int 0)]) =
        .ok ⟨.web, .message ⟨.text "hi", none, some "u1"⟩, none, none⟩ := rfl
  refine ⟨by decide, hread, fun h => ?_⟩
  rw [hread] at h
  cases h

end Event

end Chatflow
