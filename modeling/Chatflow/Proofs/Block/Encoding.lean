import Chatflow.Block.Basic
import Chatflow.Proofs.Json.Records

/-!
# Blocks as they are written

A block reads back as it was written (`Block.ofJson?_toJson`), and so does each part of it. The
parts with more than one shape are the point. A pattern and a message are read by trying their
shapes in order, so what one shape writes must be refused by the shapes before it: a list is no
record, and the records differ in the fields that they require. A source of captures is a number
or a name, and no name is written as a number.
-/

namespace Chatflow

/-! ### Buttons and quick replies -/

theorem Button.ofJson?_toJson (byNumber : Bool) (b : Button) :
    ofJson? byNumber b.toJson = some b := by
  cases b with
  | postback title payload =>
    refine read_record fun d hd => ?_
    have htag : splitTag "type" kinds byNumber (.ofDict d) =
        some ("postback", .ofDict (d.erase "type")) := splitTag_ofDict (by decide) (by simp [hd])
    rw [ofJson?, htag]
    simp [Record.required, hd]
  | webUrl title url ratio =>
    refine read_record fun d hd => ?_
    have htag : splitTag "type" kinds byNumber (.ofDict d) =
        some ("web_url", .ofDict (d.erase "type")) := splitTag_ofDict (by decide) (by simp [hd])
    have hratio : (d.erase "type").find? "webview_height_ratio" = ratio.map .str := by simp [hd]
    rw [ofJson?, htag]
    simp [Record.required, hd, Record.optional_text_ofDict hratio]

theorem QuickReply.ofJson?_toJson (q : QuickReply) : ofJson? q.toJson = some q := by
  have hkind : Decode.choice Kind.names (.str q.kind.name) = some q.kind := by cases q.kind <;> rfl
  refine read_record fun d hd => ?_
  have htitle : d.find? "title" = q.title.map .str := by simp [hd]
  have hpayload : d.find? "payload" = q.payload.map .str := by simp [hd]
  simp [ofJson?, Record.withDefault, hd, hkind, Record.optional_text_ofDict htitle,
    Record.optional_text_ofDict hpayload]

theorem Attachment.ofJson?_toJson (a : Attachment) : ofJson? a.toJson = some a := by
  obtain ⟨t, htarget, ht⟩ :=
    exists_ofDict (Json.field? "attachment_id" .str a.id ++ Json.field? "url" .str a.url)
  have hid : t.find? "attachment_id" = a.id.map .str := by simp [ht]
  have hurl : t.find? "url" = a.url.map .str := by simp [ht]
  refine read_record fun d hd => ?_
  simp [ofJson?, Record.required, hd, htarget, Record.optional_text_ofDict hid,
    Record.optional_text_ofDict hurl]

/-! ### Options -/

theorem FallbackPolicy.ofJson?_toJson (p : FallbackPolicy) : ofJson? p.toJson = some p := by
  refine read_record fun d hd => ?_
  simp [ofJson?, Record.withDefault, hd]

theorem Content.Fields.ofJson?_toJson (f : Content.Fields) : ofJson? f.toJson = some f := by
  refine read_record fun d hd => ?_
  have hsubtitle : d.find? "subtitle" = f.subtitle.map .str := by simp [hd]
  have himage : d.find? "image_url" = f.imageUrl.map .str := by simp [hd]
  have hurl : d.find? "url" = f.url.map .str := by simp [hd]
  have haction : d.find? "action_title" = f.actionTitle.map .str := by simp [hd]
  have hpayload : d.find? "action_payload" = f.actionPayload.map .str := by simp [hd]
  simp [ofJson?, Record.withDefault, hd, Record.optional_text_ofDict hsubtitle,
    Record.optional_text_ofDict himage, Record.optional_text_ofDict hurl,
    Record.optional_text_ofDict haction, Record.optional_text_ofDict hpayload]

theorem Content.Options.ofJson?_toJson (o : Content.Options) : ofJson? o.toJson = some o := by
  have hname : Decode.choice Display.names (.str o.display.name) = some o.display := by
    cases o.display <;> rfl
  have hlist := Decode.list_map fun b (_ : b ∈ o.buttons) => b.ofJson?_toJson false
  refine read_record fun d hd => ?_
  have hdisplay : d.find? "display" = some (.str o.display.name) := by simp [hd]
  have htype : d.find? "content_type" = some (.str o.contentType) := by simp [hd]
  have hentity : d.find? "entity" = none := by simp [hd]
  have hfields : d.find? "fields" = some o.fields.toJson := by simp [hd]
  have hbuttons : d.find? "buttons" = some (.arr (o.buttons.map Button.toJson)) := by simp [hd]
  have hlimit : d.find? "limit" = some (.nat o.limit.toNat) := by simp [hd]
  have hstyle : d.find? "top_element_style" = o.topElementStyle.map .str := by simp [hd]
  simp [ofJson?, Record.required_ofDict hdisplay hname, Record.withAlias, htype, hentity,
    Record.withDefault_ofDict htype (Decode.text_str _),
    Record.withDefault_ofDict hfields o.fields.ofJson?_toJson,
    Record.withDefault_ofDict hbuttons hlist, Record.required_ofDict hlimit (Decode.uint32_nat _),
    Record.optional_text_ofDict hstyle]

theorem BlockOptions.ofJson?_toJson (o : BlockOptions) : ofJson? o.toJson = some o := by
  refine read_record fun d hd => ?_
  have htyping : d.find? "typing" = o.typing.map fun n => .nat n.toNat := by simp [hd]
  have hfallback : d.find? "fallback" = o.fallback.map FallbackPolicy.toJson := by simp [hd]
  have hcontent : d.find? "content" = o.content.map Content.Options.toJson := by simp [hd]
  have hassign : d.find? "assignTo" = o.assignTo.map .str := by simp [hd]
  simp [ofJson?, Record.optional_ofDict htyping rfl fun n _ => Decode.uint64_nat n,
    Record.optional_ofDict hfallback rfl fun p _ => p.ofJson?_toJson,
    Record.optional_ofDict hcontent rfl fun p _ => p.ofJson?_toJson,
    Record.optional_text_ofDict hassign]

/-! ### Patterns and captures -/

theorem Nlp.Condition.ofJson?_toJson (c : Nlp.Condition) : ofJson? c.toJson = some c := by
  have htest : Decode.choice Test.names (.str c.test.name) = some c.test := by
    cases c.test <;> rfl
  refine read_record fun d hd => ?_
  simp [ofJson?, Record.required, Record.withDefault, hd, htest]

theorem PayloadPattern.ofJson?_toJson (p : PayloadPattern) : ofJson? p.toJson = some p := by
  refine read_record fun d hd => ?_
  have hkind : d.find? "type" = p.kind.map .str := by simp [hd]
  simp [ofJson?, Record.required, hd, Record.optional_text_ofDict hkind]

/-- **A pattern comes back in its own shape.** -/
theorem Pattern.ofJson?_toJson (p : Pattern) : ofJson? p.toJson = some p := by
  cases p with
  | nlp conditions =>
    have hconditions := Decode.list_map fun c (_ : c ∈ conditions) => c.ofJson?_toJson
    simp [toJson, ofJson?, hconditions]
  | payload p =>
    -- a record is no list of conditions
    have hlist : Decode.list Nlp.Condition.ofJson? p.toJson = none := rfl
    simp [toJson, ofJson?, hlist, p.ofJson?_toJson]
  | text t =>
    have hlist : Decode.list Nlp.Condition.ofJson? (.str t) = none := rfl
    have hpayload : PayloadPattern.ofJson? (.str t) = none := rfl
    simp [toJson, ofJson?, hlist, hpayload]

/-- **A source of captures comes back as itself**: the two numbers are the input and the payload,
and a name is a text even if it reads like one of them. -/
theorem Capture.Source.ofJson?_toJson (s : Capture.Source) : ofJson? s.toJson = some s := by
  cases s <;> rfl

theorem Capture.ofJson?_toJson (c : Capture) : ofJson? c.toJson = some c := by
  refine read_record fun d hd => ?_
  simp [ofJson?, Record.required, hd, c.source.ofJson?_toJson]

/-! ### Messages -/

/-- **A message comes back in its own shape**: a record without a field that a shape requires is
not of that shape. -/
theorem BlockMessage.ofJson?_toJson (m : BlockMessage) : ofJson? m.toJson = some m := by
  cases m with
  | texts ts => simp [toJson, ofJson?]
  | quickReplies t replies =>
    have hreplies := Decode.list_map fun q (_ : q ∈ replies) => q.ofJson?_toJson
    refine read_record fun d hd => ?_
    simp [ofJson?, Record.required, hd, hreplies]
  | buttons t bs =>
    have hbuttons := Decode.list_map fun b (_ : b ∈ bs) => b.ofJson?_toJson true
    refine read_record fun d hd => ?_
    simp [ofJson?, Record.required, hd, hbuttons]
  | attachment file replies =>
    have hreplies := Decode.list_map fun q (_ : q ∈ replies) => q.ofJson?_toJson
    refine read_record fun d hd => ?_
    simp [ofJson?, Record.required, Record.withDefault, hd,
      file.ofJson?_toJson, hreplies]
  | content elements =>
    refine read_record fun d hd => ?_
    simp [ofJson?, Record.required, hd]
  | plugin name args =>
    refine read_record fun d hd => ?_
    simp [ofJson?, Record.required, Record.withDefault, hd]

/-! ### Blocks -/

/-- **A block comes back as it was written.** -/
theorem Block.ofJson?_toJson (b : Block) : ofJson? b.toJson = some b := by
  refine read_record fun d hd => ?_
  have hid : (Record.ofDict d).required "id" Decode.text = some b.id :=
    Record.required_ofDict (hd _) rfl
  have hname : (Record.ofDict d).required "name" Decode.text = some b.name :=
    Record.required_ofDict (hd _) rfl
  have hpatterns : (Record.ofDict d).withDefault "patterns" (Decode.list Pattern.ofJson?) [] =
      some b.patterns :=
    Record.withDefault_ofDict (hd _) (Decode.list_map fun p _ => p.ofJson?_toJson)
  have hchannels : (Record.ofDict d).withDefault "trigger_channels" (Decode.list Decode.text) [] =
      some b.triggerChannels := Record.withDefault_ofDict (hd _) (Decode.list_texts _)
  have hlabels : (Record.ofDict d).withDefault "trigger_labels" (Decode.list Decode.text) [] =
      some b.triggerLabels := Record.withDefault_ofDict (hd _) (Decode.list_texts _)
  have hassigned : (Record.ofDict d).withDefault "assign_labels" (Decode.list Decode.text) [] =
      some b.assignLabels := Record.withDefault_ofDict (hd _) (Decode.list_texts _)
  have hcaptures : (Record.ofDict d).withDefault "capture_vars" (Decode.list Capture.ofJson?) [] =
      some b.captures :=
    Record.withDefault_ofDict (hd _) (Decode.list_map fun c _ => c.ofJson?_toJson)
  have hoptions : (Record.ofDict d).withDefault "options" BlockOptions.ofJson? .none =
      some b.options := Record.withDefault_ofDict (hd _) b.options.ofJson?_toJson
  have hmessage : (Record.ofDict d).required "message" BlockMessage.ofJson? = some b.message :=
    Record.required_ofDict (hd _) b.message.ofJson?_toJson
  have hstarts : (Record.ofDict d).withDefault "starts_conversation" Decode.bool false =
      some b.startsConversation := Record.withDefault_ofDict (hd _) rfl
  have hnext : (Record.ofDict d).withDefault "nextBlocks" (Decode.list Decode.text) [] =
      some b.nextBlocks := Record.withDefault_ofDict (hd _) (Decode.list_texts _)
  have hattached : (Record.ofDict d).optional "attachedBlock" Decode.text = some b.attachedBlock :=
    Record.optional_orNull (hd _) rfl fun _ _ => rfl
  have hcategory : (Record.ofDict d).optional "category" Decode.text = some b.category :=
    Record.optional_orNull (hd _) rfl fun _ _ => rfl
  have hbuiltin : (Record.ofDict d).withDefault "builtin" Decode.bool false = some b.builtin :=
    Record.withDefault_ofDict (hd _) rfl
  rw [ofJson?, Record.ofJson?_ofDict]
  dsimp only [Option.bind_eq_bind, Option.bind_some]
  rw [hid, hname, hpatterns, hchannels, hlabels, hassigned, hcaptures, hoptions, hmessage, hstarts,
    hnext, hattached, hcategory, hbuiltin]
  rfl

end Chatflow
