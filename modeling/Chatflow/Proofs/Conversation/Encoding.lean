import Chatflow.Conversation
import Chatflow.Proofs.Block.Encoding

/-!
# Conversations as they are written

A conversation reads back as it was written (`Conversation.read_written`), with its blocks, its
context and all that these hold, provided that the numbers in it that may have a fraction are
finite: any other is written as `null`, which is no number.

The text of a JSON value does not come into this. A conversation is taken to a value and read from
that value.
-/

namespace Chatflow

/-! ### Payloads -/

/-- Both numbers of a place are finite. -/
def Coordinates.IsFinite (c : Coordinates) : Prop := c.lat.isFinite = true ∧ c.lon.isFinite = true

/-- A place that is the payload is finite. -/
def Payload.IsFinite : Payload → Prop
  | .location c => c.IsFinite
  | .code _ | .attachments _ => True

theorem Coordinates.ofJson?_toJson {c : Coordinates} (h : c.IsFinite) :
    ofJson? c.toJson = some c := by
  refine read_record fun d hd => ?_
  simp [ofJson?, Record.required, hd, Decode.float_ofFloat h.1, Decode.float_ofFloat h.2]

theorem FileRef.ofJson?_toJson (f : FileRef) : ofJson? f.toJson = some f := by
  refine read_record fun d hd => ?_
  simp [ofJson?, Record.required, hd, Json.record]

/-- **A payload comes back in its own shape**: a code is a text, and the others are told apart by
their tags. -/
theorem Payload.ofJson?_toJson {p : Payload} (h : p.IsFinite) : ofJson? p.toJson = some p := by
  cases p with
  | code c => rfl
  | location c =>
    refine read_record fun d hd => ?_
    have hplace : (Record.ofDict (d.erase "type")).required "coordinates" Coordinates.ofJson? =
        some c := Record.required_ofDict (by simp [hd]) (Coordinates.ofJson?_toJson h)
    have htag : splitTag "type" ["location", "attachments"] true (.ofDict d) =
        some ("location", .ofDict (d.erase "type")) := splitTag_ofDict (by decide) (by simp [hd])
    rw [ofJson?, htag]
    · simp [hplace]
    · nofun
  | attachments f =>
    refine read_record fun d hd => ?_
    have hfile : (Record.ofDict (d.erase "type")).required "attachments" FileRef.ofJson? = some f :=
      Record.required_ofDict (by simp [hd]) f.ofJson?_toJson
    have htag : splitTag "type" ["location", "attachments"] true (.ofDict d) =
        some ("attachments", .ofDict (d.erase "type")) := splitTag_ofDict (by decide) (by simp [hd])
    rw [ofJson?, htag]
    · simp [hfile]
    · nofun

/-! ### Parses -/

/-- Every confidence is finite. -/
def Nlp.Parse.IsFinite (p : Nlp.Parse) : Prop := ∀ e ∈ p.entities, e.confidence.isFinite = true

theorem Nlp.Entity.ofJson?_toJson {e : Nlp.Entity} (h : e.confidence.isFinite = true) :
    ofJson? e.toJson = some e := by
  refine read_record fun d hd => ?_
  simp [ofJson?, Record.required, Record.withDefault, hd, Decode.float_ofFloat h]

theorem Nlp.Parse.ofJson?_toJson {p : Nlp.Parse} (h : p.IsFinite) : ofJson? p.toJson = some p := by
  have hentities := Decode.list_map fun e he => Entity.ofJson?_toJson (h e he)
  refine read_record fun d hd => ?_
  simp [ofJson?, Record.withDefault, hd, hentities]

/-! ### Contexts -/

/-- Both numbers of a place are finite. -/
def UserLocation.IsFinite (l : UserLocation) : Prop :=
  l.lat.isFinite = true ∧ l.lon.isFinite = true

/-- The place, the parse and the payload are finite. -/
structure Context.IsFinite (c : Context) : Prop where
  userLocation : c.userLocation.IsFinite
  nlp : ∀ p ∈ c.nlp, p.IsFinite
  payload : ∀ p ∈ c.payload, p.IsFinite

theorem UserSnapshot.ofJson?_toJson (u : UserSnapshot) : ofJson? u.toJson = some u := by
  obtain ⟨id, firstName, lastName, _ | language⟩ := u
  · simp [toJson, fields, ofJson?, Record.withDefault, Record.optional, Dict.find?_map]
  · simp [toJson, fields, ofJson?, Record.withDefault, Record.optional, Dict.find?_map,
      Decode.nullable]

theorem UserLocation.ofJson?_toJson {l : UserLocation} (h : l.IsFinite) :
    ofJson? l.toJson = some l := by
  refine read_record fun d hd => ?_
  have haddress : d.find? "address" = l.address.map .ofDict := by simp [hd]
  simp [ofJson?, Record.required, hd, Decode.float_ofFloat h.1, Decode.float_ofFloat h.2,
    Record.optional_ofDict haddress rfl fun d _ => Decode.dict_any d]

theorem Context.ofJson?_toJson {c : Context} (h : c.IsFinite) : ofJson? c.toJson = some c := by
  refine read_record fun d hd => ?_
  have huser : (Record.ofDict d).withDefault "user" UserSnapshot.ofJson? .empty = some c.user :=
    Record.withDefault_ofDict (hd _) c.user.ofJson?_toJson
  have hlocation : (Record.ofDict d).withDefault "user_location" UserLocation.ofJson? .origin =
      some c.userLocation :=
    Record.withDefault_ofDict (hd _) (UserLocation.ofJson?_toJson h.userLocation)
  have hvars : (Record.ofDict d).withDefault "vars" (Decode.dict Decode.any) .empty = some c.vars :=
    Record.withDefault_ofDict (hd _) (Decode.dict_any _)
  have hskip : (Record.ofDict d).withDefault "skip" (Decode.dict Decode.uint32) .empty =
      some c.skip :=
    Record.withDefault_ofDict (hd _) (Decode.dict_ofDict Decode.uint32_nat _)
  have hattempt : (Record.ofDict d).withDefault "attempt" Decode.uint32 0 = some c.attempt :=
    Record.withDefault_ofDict (hd _) (Decode.uint32_nat _)
  have hnlp : (Record.ofDict d).optional "nlp" Nlp.Parse.ofJson? = some c.nlp :=
    Record.optional_orNull (hd _) rfl fun p hp => Nlp.Parse.ofJson?_toJson (h.nlp p hp)
  have hpayload : (Record.ofDict d).optional "payload" Payload.ofJson? = some c.payload :=
    Record.optional_orNull (hd _) rfl fun p hp => Payload.ofJson?_toJson (h.payload p hp)
  have hchannel : (Record.ofDict d).optional "channel" Decode.text = some c.channel :=
    Record.optional_orNull (hd _) rfl fun _ _ => rfl
  have htext : (Record.ofDict d).optional "text" Decode.text = some c.text :=
    Record.optional_orNull (hd _) rfl fun _ _ => rfl
  rw [ofJson?, Record.ofJson?_ofDict]
  dsimp only [Option.bind_eq_bind, Option.bind_some]
  rw [huser, hlocation, hvars, hskip, hattempt, hnlp, hpayload, hchannel, htext]
  rfl

/-! ### Conversations -/

/-- **A conversation survives being written**: it is read back as it was, each block, pattern,
message, payload and source of captures in its own shape. -/
theorem Conversation.read_written {c : Conversation} (h : c.context.IsFinite) :
    ofJson? c.toJson = some c := by
  refine read_record fun d hd => ?_
  have hcurrent : (Record.ofDict d).optional "current" Block.ofJson? = some c.current :=
    Record.optional_orNull (hd _) rfl fun b _ => b.ofJson?_toJson
  have hnext : (Record.ofDict d).withDefault "next" (Decode.list Block.ofJson?) [] = some c.next :=
    Record.withDefault_ofDict (hd _) (Decode.list_map fun b _ => b.ofJson?_toJson)
  have hcontext : (Record.ofDict d).withDefault "context" Context.ofJson? .empty =
      some c.context := Record.withDefault_ofDict (hd _) (Context.ofJson?_toJson h)
  simp [ofJson?, Record.required, hd, hcurrent, hnext, hcontext]

namespace Sample

/-- A block with patterns of each shape, captures from each source, and buttons. -/
def assorted : Block :=
  { Block.plain "menu" "Menu" (.buttons "Choose" [.postback "More" "MORE", .webUrl "Site" "/" none])
    with
    patterns := [.nlp [.isPresent "city"], .payload ⟨"More", "MORE", none⟩, .text "/^menu$/"]
    captures := [⟨.input, "said"⟩, ⟨.payload, "pressed"⟩, ⟨.entity "-1", "found"⟩]
    options := ⟨some 500, some ⟨true, 2, ["Pardon?"]⟩, none, some "agent"⟩ }

/-- A conversation at this block, before blocks with messages of other shapes. -/
def assortment : Conversation where
  id := "conv-1"
  sender := "sub-1"
  active := true
  current := some assorted
  next := [Block.plain "text" "Text" (.texts ["Hello!"]),
    Block.plain "replies" "Replies" (.quickReplies "Choose" [⟨.location, none, none⟩]),
    Block.plain "file" "File" (.attachment ⟨"image", some "file-1", none⟩ []),
    Block.plain "list" "List" (.content true),
    Block.plain "plugin" "Plugin" (.plugin "clock" .null)]
  context := { Context.empty with
    nlp := some ⟨[⟨"city", "Paris", 0.5⟩]⟩
    payload := some (.location ⟨48.5, 2.25⟩)
    vars := .ofList [("said", .str "menu"), ("count", .int 3)] }

end Sample

namespace Conversation

theorem read_written_assortment :
    Sample.assortment.context.IsFinite ∧
      ofJson? Sample.assortment.toJson = some Sample.assortment := by
  have hfinite : Sample.assortment.context.IsFinite := by
    refine ⟨⟨by decide +kernel, by decide +kernel⟩, fun p hp => ?_, fun p hp => ?_⟩
    · obtain rfl := Option.some.inj hp
      exact List.forall_mem_singleton.mpr (by decide +kernel)
    · obtain rfl := Option.some.inj hp
      exact ⟨by decide +kernel, by decide +kernel⟩
  exact ⟨hfinite, read_written hfinite⟩

end Conversation

end Chatflow
