import Chatflow.Message.Button

/-!
# Content options

How a block shows entries of a content type: as a list or a carousel, which fields of an entry
give the title, the picture and the link of an element, which buttons every element carries, and
how many elements make a page.
-/

namespace Chatflow

namespace Content

/-- How a page of content is shown. -/
inductive Display where
  | list
  | carousel
  deriving DecidableEq, Repr

/-- The names of the ways to show content. -/
def Display.names : List (String × Display) := [("list", .list), ("carousel", .carousel)]

/-- The name of a way to show content. -/
def Display.name : Display → String
  | .list => "list"
  | .carousel => "carousel"

/-- The fields of an entry that an element is made from. -/
structure Fields where
  /-- The field with the title. -/
  title : String
  /-- The field with the line under the title. -/
  subtitle : Option String
  /-- The field with the picture. -/
  imageUrl : Option String
  /-- The field with the link. -/
  url : Option String
  /-- The field with the text of the first button. -/
  actionTitle : Option String
  /-- The field with the value that buttons send back. -/
  actionPayload : Option String
  deriving DecidableEq, Repr

/-- No field is named. -/
def Fields.empty : Fields := ⟨"", none, none, none, none, none⟩

/-- Reads the names of the fields; each may be missing. -/
def Fields.ofJson? : Decoder Fields := fun v => do
  let r ← Record.ofJson?
    ["title", "subtitle", "image_url", "url", "action_title", "action_payload"] v
  return {
    title := ← r.withDefault "title" Decode.text ""
    subtitle := ← r.optional "subtitle" Decode.text
    imageUrl := ← r.optional "image_url" Decode.text
    url := ← r.optional "url" Decode.text
    actionTitle := ← r.optional "action_title" Decode.text
    actionPayload := ← r.optional "action_payload" Decode.text }

/-- The JSON form of the names of the fields. -/
def Fields.toJson (f : Fields) : Json :=
  .record ([("title", .str f.title)] ++ Json.field? "subtitle" .str f.subtitle ++
    Json.field? "image_url" .str f.imageUrl ++ Json.field? "url" .str f.url ++
    Json.field? "action_title" .str f.actionTitle ++
    Json.field? "action_payload" .str f.actionPayload)

/-- How a block shows entries of a content type. -/
structure Options where
  /-- As a list or a carousel. -/
  display : Display
  /-- The type of the entries. -/
  contentType : String
  /-- The fields that elements are made from. -/
  fields : Fields
  /-- The buttons of every element. -/
  buttons : List Button
  /-- The number of elements on a page. -/
  limit : UInt32
  /-- How the first element of a list is shown. -/
  topElementStyle : Option String
  deriving DecidableEq, Repr

/-- Reads content options; the content type has a second name, `entity`. -/
def Options.ofJson? : Decoder Options := fun v => do
  let r ← Record.ofJson?
    ["display", "content_type", "fields", "buttons", "limit", "top_element_style"] v
  return {
    display := ← r.required "display" (Decode.choice Display.names)
    contentType := ← r.withAlias "content_type" "entity" Decode.text ""
    fields := ← r.withDefault "fields" Fields.ofJson? .empty
    buttons := ← r.withDefault "buttons" (Decode.list (Button.ofJson? false)) []
    limit := ← r.required "limit" Decode.uint32
    topElementStyle := ← r.optional "top_element_style" Decode.text }

/-- The JSON form of content options. -/
def Options.toJson (o : Options) : Json :=
  .record ([("display", .str o.display.name), ("content_type", .str o.contentType),
    ("fields", o.fields.toJson), ("buttons", .arr (o.buttons.map Button.toJson)),
    ("limit", .nat o.limit.toNat)] ++ Json.field? "top_element_style" .str o.topElementStyle)

end Content

end Chatflow
