import Chatflow.Matching.Basic
import Chatflow.Proofs.Content.Pages
import Chatflow.Proofs.Matching.Selection
import Chatflow.Proofs.Rendering.Meaning
import Chatflow.Proofs.Widget.Grammar

/-!
# The buttons of an entry

A button under an entry of a page sends back its title and a value of the entry, with a colon
between them. Four places have to agree on this code: the widget writes it
(`Widget.exists_view_payload?`), matching reads the title off its beginning
(`Block.matchPayload?_code`), a capture keeps all of it (`Context.find?_fold_of_keepsPress`), and a
token shows what follows the colon (`Template.Renders.segment`).

They agree for titles and values without a colon of their own, whatever the entry makes of the text
on the button (`Widget.pressed_title_value`). The name of the variable must not have braces, since
what stands between them could be a token itself (`Widget.pressed_into_braces`).
-/

namespace Chatflow

namespace Widget

/-! ### The code of a button -/

/-- What a button of an entry sends back after its title, where that is a text: the field that the
options name, or else the one called `title`. -/
inductive ActionText (entry : Json) (fields : Content.Fields) : String → Prop
  | named {field s : String} (hfield : fields.actionPayload = some field)
      (h : entry.get? field = some (.str s)) : ActionText entry fields s
  | titled {s : String}
      (hnone : ∀ field, fields.actionPayload = some field → entry.get? field = none)
      (h : entry.get? "title" = some (.str s)) : ActionText entry fields s

theorem ActionText.actionValue_eq {entry : Json} {fields : Content.Fields} {s : String}
    (h : ActionText entry fields s) : actionValue entry fields = s := by
  cases h with
  | named hfield h =>
    rw [actionValue, mapped, hfield, Option.bind_some, h]
    rfl
  | titled hnone h =>
    have hmapped : mapped entry fields.actionPayload = none := by
      cases hfield : fields.actionPayload with
      | none => rfl
      | some field => exact hnone field hfield
    rw [actionValue, hmapped, h]
    rfl

/-- The payload of a button in a view, by the number of its element and its own. -/
def View.payload? (v : View) (j i : Nat) : Option String :=
  match v.elements[j]?.bind (·.get? "buttons") with
  | some (.arr buttons) => (buttons[i]?.bind (·.get? "payload")).bind Json.text?
  | _ => none

/-- Another title leaves a button the payload. -/
theorem exists_getElem?_retitle {buttons : List Button} {i : Nat} {t p : String}
    (h : buttons[i]? = some (.postback t p)) (entry : Json) (fields : Content.Fields) :
    ∃ t', (retitle entry fields buttons)[i]? = some (.postback t' p) := by
  cases buttons with
  | nil => cases h
  | cons b rest =>
    cases i with
    | zero =>
      obtain rfl := Option.some.inj h
      rw [retitle]
      cases (mapped entry fields.actionTitle).bind Json.text? with
      | none => exact ⟨t, rfl⟩
      | some t' => exact ⟨t', rfl⟩
    | succ i => exact ⟨t, h⟩

/-- The buttons of an element. -/
theorem get?_buttons_element {o : Content.Options} (h : o.buttons ≠ []) (entry : Json) :
    (element o entry).get? "buttons" = some (.arr
      ((retitle entry o.fields (o.buttons.map (buttonFor entry o.fields))).map Button.toJson)) := by
  have hbuttons : (o.buttons.map (buttonFor entry o.fields)).isEmpty = false := by simpa using h
  rw [element, Json.get?_record, hbuttons, List.reverse_append]
  rfl

/-- A page that is not empty is shown in either way, if there is a field for the titles. -/
theorem exists_view_elements {page : ContentPage} (hpage : page.elements ≠ [])
    (htitle : page.options.fields.title ≠ "") (display : Content.Display) :
    ∃ v, view (display.envelope page) = .ok v ∧
      v.elements = page.elements.map (element page.options) := by
  cases display with
  | list =>
    obtain ⟨v, hview, helements, -⟩ := exists_view_list hpage htitle
    exact ⟨v, hview, helements⟩
  | carousel =>
    exact ⟨_, by rw [Content.Display.envelope, view, elements_eq hpage htitle]; rfl, rfl⟩

/-- **A button carries its title and the value of the entry**, whatever the text on it. -/
theorem exists_view_payload? {page : ContentPage} {j i : Nat} {entry : Json} {t p s : String}
    (hentry : page.elements[j]? = some entry)
    (hbutton : page.options.buttons[i]? = some (.postback t p))
    (hs : ActionText entry page.options.fields s) (htitle : page.options.fields.title ≠ "")
    (display : Content.Display) :
    ∃ v, view (display.envelope page) = .ok v ∧ v.payload? j i = some (t ++ ":" ++ s) := by
  have hpage : page.elements ≠ [] := List.ne_nil_of_mem (List.mem_of_getElem? hentry)
  have hbuttons : page.options.buttons ≠ [] := List.ne_nil_of_mem (List.mem_of_getElem? hbutton)
  obtain ⟨v, hview, helements⟩ := exists_view_elements hpage htitle display
  have hwritten : (page.options.buttons.map (buttonFor entry page.options.fields))[i]? =
      some (.postback t (t ++ ":" ++ s)) := by
    rw [List.getElem?_map, hbutton, Option.map_some, buttonFor, hs.actionValue_eq]
  obtain ⟨t', hshown⟩ := exists_getElem?_retitle hwritten entry page.options.fields
  refine ⟨v, hview, ?_⟩
  rw [View.payload?, helements, List.getElem?_map, hentry, Option.map_some, Option.bind_some,
    get?_buttons_element hbuttons]
  dsimp only
  rw [List.getElem?_map, hshown, Option.map_some, Option.bind_some, Button.toJson,
    Json.get?_record]
  rfl

/-- A title that can be told from the value after it. -/
structure PlainTitle (t : String) : Prop where
  /-- There is something to tell. -/
  nonempty : t ≠ ""
  /-- There is no colon before the one after it. -/
  colonFree : ':' ∉ t.toList
  /-- It does not begin with a blank. -/
  start : ∀ c ∈ t.toList.head?, Text.isBlank c = false

/-- A value that can be told from the title before it, and is shown as it is. -/
structure PlainValue (s : String) : Prop where
  /-- There is no second colon. -/
  colonFree : ':' ∉ s.toList
  /-- Nothing in it is a token. -/
  unopened : Template.opener ∉ s.toList
  /-- It does not end with a blank. -/
  finish : ∀ c ∈ s.toList.getLast?, Text.isBlank c = false

end Widget

/-! ### Matching a code -/

/-- **A code is accepted by the pattern of its title.** -/
theorem Block.matchPayload?_code {b : Block} {label t : String} {kind : Option String}
    (h : .payload ⟨label, t, kind⟩ ∈ b.patterns) (ht : t ≠ "") (s : String) :
    (b.matchPayload? (.code (t ++ ":" ++ s))).isSome = true := by
  refine Block.matchPayload?_isSome_iff.mpr ⟨_, h, ?_⟩
  simp [PayloadPattern.accepts, ht]

/-! ### Keeping a code -/

/-- A text without blanks at either end stays. -/
theorem Text.trim_of_not_blank {s : String} (hstart : ∀ c ∈ s.toList.head?, isBlank c = false)
    (hfinish : ∀ c ∈ s.toList.getLast?, isBlank c = false) : trim s = s := by
  have hdrop : ∀ {l : List Char}, (∀ c ∈ l.head?, isBlank c = false) →
      l.dropWhile isBlank = l := by
    intro l hl
    cases l with
    | nil => rfl
    | cons c l => rw [List.dropWhile_cons_of_neg (by simp [hl c rfl])]
  rw [trim, hdrop hstart, hdrop (by rwa [List.head?_reverse]), List.reverse_reverse,
    String.ofList_toList]

/-- The code of a plain title and a plain value has no blanks at its ends. -/
theorem Widget.trim_code {t s : String} (ht : PlainTitle t) (hs : PlainValue s) :
    Text.trim (t ++ ":" ++ s) = t ++ ":" ++ s := by
  have hcode : (t ++ ":" ++ s).toList = t.toList ++ ':' :: s.toList := by simp
  refine Text.trim_of_not_blank (fun c hc => ht.start c ?_) fun c hc => ?_
  · rw [hcode, List.head?_append_of_ne_nil _ (by simpa using ht.nonempty)] at hc
    exact hc
  · rw [hcode, List.getLast?_append, List.getLast?_cons] at hc
    cases hlast : s.toList.getLast? with
    | none =>
      rw [hlast] at hc
      obtain rfl := Option.some.inj hc
      decide +kernel
    | some d =>
      rw [hlast] at hc
      obtain rfl := Option.some.inj hc
      exact hs.finish d hlast

/-- In an event a button is pressed that sends back a code. -/
def Event.Presses (e : Event) (code : String) : Prop :=
  ∃ label mid author, e.widget = .message ⟨.postback label code, mid, author⟩

/-- A block keeps what is pressed in a variable: it captures the input or the payload into it, and
after that no entity that is found in the event. -/
def Block.KeepsPress (b : Block) (x : String) (e : Event) : Prop :=
  ∃ before source after, b.captures = before ++ ⟨source, x⟩ :: after ∧
    (source = .input ∨ source = .payload) ∧
    ∀ name, ⟨.entity name, x⟩ ∈ after → (Capture.Source.entity name).read? e = none

section

variable {b : Block} {x code : String} {e : Event} {source : Capture.Source}

/-- Where nothing is known of the language, a capture of the input or the payload is enough. -/
theorem Block.keepsPress_of_mem (he : e.nlp = none) (hsource : source = .input ∨ source = .payload)
    (h : ⟨source, x⟩ ∈ b.captures) : b.KeepsPress x e := by
  obtain ⟨before, after, hcaptures⟩ := List.append_of_mem h
  refine ⟨before, source, after, hcaptures, hsource, fun name _ => ?_⟩
  rw [Capture.Source.read?, he]
  rfl

theorem Event.Presses.payload?_eq (h : e.Presses code) : e.payload? = some (.code code) := by
  obtain ⟨label, mid, author, hwidget⟩ := h
  rw [payload?, hwidget]
  rfl

/-- The input of a press is its code, and so is its payload. -/
theorem Event.Presses.read?_eq (h : e.Presses code)
    (hsource : source = .input ∨ source = .payload) : source.read? e = some (.str code) := by
  obtain rfl | rfl := hsource
  · have hkind : e.messageKind = .postback := by
      obtain ⟨label, mid, author, hwidget⟩ := h
      rw [messageKind, hwidget]
      rfl
    rw [Capture.Source.read?, hkind, h.payload?_eq]
    rfl
  · rw [Capture.Source.read?, h.payload?_eq]
    rfl

/-- **What is pressed is kept**, without the blanks around it. -/
theorem Context.find?_fold_of_keepsPress (h : e.Presses code) (hkeeps : b.KeepsPress x e)
    (c : Context) : (c.fold b e).vars.find? x = some (.str (Text.trim code)) := by
  obtain ⟨before, source, after, hcaptures, hsource, hentities⟩ := hkeeps
  -- what is captured into the variable after the press is the press again
  have hafter : ∀ v, Dict.findEntry x (captured after e).reverse = some v →
      v = .str (Text.trim code) := by
    intro v hv
    obtain ⟨⟨source', x'⟩, hmem, rfl, value, hvalue, rfl⟩ := exists_capture hv
    cases source' with
    | input =>
      rw [h.read?_eq (.inl rfl)] at hvalue
      rw [← Option.some.inj hvalue, Json.trim]
    | payload =>
      rw [h.read?_eq (.inr rfl)] at hvalue
      rw [← Option.some.inj hvalue, Json.trim]
    | entity name =>
      rw [hentities name hmem] at hvalue
      cases hvalue
  rw [Context.vars_fold, Dict.find?_insertAll,
    findEntry_captured hcaptures (h.read?_eq hsource)]
  cases hfind : Dict.findEntry x (captured after e).reverse with
  | none => rfl
  | some v =>
    rw [hafter v hfind]
    rfl

end

/-! ### Round trip -/

namespace Widget

/-- The code of a plain title and a plain value is shown as the value. -/
theorem renders_code {t s : String} (ht : PlainTitle t) (hs : PlainValue s) :
    Template.Renders (.str (t ++ ":" ++ s)) s := by
  have hcode : t ++ ":" ++ s = String.ofList (t.toList ++ ':' :: (s.toList ++ [])) :=
    String.toList_injective (by simp)
  have hsegment := Template.Renders.segment ht.colonFree hs.colonFree (.inl rfl)
  rwa [← hcode, String.ofList_toList] at hsegment

/-- **A pressed button brings its title and its value back.** A view has a code for the button,
which comes in as it is when the button is pressed. Then every block matches that has a pattern for
the title. A block that keeps what is pressed in a variable keeps the code, and the token of the
variable becomes the value if its name has no braces. -/
theorem pressed_title_value {page : ContentPage} {j i : Nat} {entry : Json} {t p s : String}
    (hentry : page.elements[j]? = some entry)
    (hbutton : page.options.buttons[i]? = some (.postback t p))
    (hs : ActionText entry page.options.fields s) (htitle : page.options.fields.title ≠ "")
    (htell : PlainTitle t) (hvalue : PlainValue s) (display : Content.Display) :
    ∃ v code, view (display.envelope page) = .ok v ∧ v.payload? j i = some code ∧
      (∀ (site : Site) raw label mid author,
        IsMessage raw ⟨.postback label code, mid, author⟩ →
        Event.parse site.channelName raw =
          .ok ⟨site, .message ⟨.postback label code, mid, author⟩, none, none⟩) ∧
      ∀ e : Chatflow.Event, e.Presses code →
        e.payload? = some (.code code) ∧
        (∀ (b : Block) label kind, .payload ⟨label, t, kind⟩ ∈ b.patterns →
          (b.matchPayload? (.code code)).isSome = true) ∧
        ∀ (b : Block) x, b.KeepsPress x e → ∀ c : Context,
          (c.fold b e).vars.find? x = some (.str code) ∧
          (Template.opener ∉ x.toList → Template.closer ∉ x.toList → ∀ vars contact,
            Template.render (Template.token ("context.vars." ++ x)) (c.fold b e) vars contact =
              s) := by
  obtain ⟨v, hview, hcode⟩ := exists_view_payload? hentry hbutton hs htitle display
  refine ⟨v, _, hview, hcode, fun site raw label mid author hraw =>
    Event.parse_eq_ok_iff.mpr ⟨_, rfl, hraw⟩, fun e he => ⟨he.payload?_eq,
      fun b label kind hpattern => Block.matchPayload?_code hpattern htell.nonempty s,
      fun b x hkeeps c => ?_⟩⟩
  have hkept := Context.find?_fold_of_keepsPress he hkeeps c
  rw [trim_code htell hvalue] at hkept
  refine ⟨hkept, fun unopened unclosed vars contact => ?_⟩
  have hmeans : Template.Means (c.fold b e) vars contact ("context.vars." ++ x) s :=
    .conversation hkept (renders_code htell hvalue)
  exact Template.render_token hmeans (Template.not_mem_toList_append (by decide) unopened)
    (Template.not_mem_toList_append (by decide) unclosed) hvalue.unopened

end Widget

namespace Sample

/-- A shirt, with a text for its first button. -/
def shirt : Json :=
  .record [("title", .str "Red shirt"), ("sku", .str "R-1"), ("cta", .str "Take the red one")]

/-- A page with a shirt, which can be bought. -/
def wardrobe : ContentPage where
  elements := [shirt]
  pagination := ⟨1, 0, 1⟩
  options :=
    { display := .carousel
      contentType := "shirts"
      fields := { Content.Fields.empty with
        title := "title", actionTitle := some "cta", actionPayload := some "sku" }
      buttons := [.postback "Buy" ""]
      limit := 1
      topElementStyle := none }

/-- A block for buttons that buy, which keeps what was bought in a variable. -/
def order (x : String) : Block :=
  { Block.plain "order" "Order" (.texts ["Done."]) with
    patterns := [.payload ⟨"Buy", "Buy", none⟩]
    captures := [⟨.payload, x⟩] }

/-- Somebody presses the button for the shirt. -/
def purchase : Widget.Message := ⟨.postback "Take the red one" "Buy:R-1", none, some "u1"⟩

theorem actionText_shirt : Widget.ActionText shirt wardrobe.options.fields "R-1" :=
  .named rfl (by decide)

theorem plainTitle_buy : Widget.PlainTitle "Buy" := by
  refine ⟨by decide, by decide, fun c hc => ?_⟩
  obtain rfl : 'B' = c := Option.some.inj hc
  decide +kernel

theorem plainValue_sku : Widget.PlainValue "R-1" := by
  refine ⟨by decide, by decide, fun c hc => ?_⟩
  obtain rfl : '1' = c := Option.some.inj hc
  decide +kernel

theorem payload?_wardrobe :
    (Widget.view (.carousel wardrobe)).toOption.bind (·.payload? 0 0) = some "Buy:R-1" := by
  decide +kernel

theorem isMessage_purchase : Widget.IsMessage purchase.toJson purchase :=
  Widget.Message.ofJson?_eq_some_iff.mp (by decide +kernel)

end Sample

namespace Widget

/-- The button has another text, and its code is still told. -/
theorem pressed_title_value_wardrobe :
    (∃ v, view (.carousel Sample.wardrobe) = .ok v ∧ v.payload? 0 0 = some "Buy:R-1") ∧
      Event.parse "web-channel" Sample.purchase.toJson =
        .ok ⟨.web, .message Sample.purchase, none, none⟩ ∧
      ((Sample.order "sku").matchPayload? (.code "Buy:R-1")).isSome = true ∧
      Template.render "{context.vars.sku}" (Context.empty.fold (Sample.order "sku")
        ⟨.web, .message Sample.purchase, none, none⟩) .empty .empty = "R-1" := by
  have hentry : Sample.wardrobe.elements[0]? = some Sample.shirt := rfl
  have hbutton : Sample.wardrobe.options.buttons[0]? = some (.postback "Buy" "") := rfl
  obtain ⟨v, code, hview, hcode, hparse, hpress⟩ :=
    pressed_title_value hentry hbutton Sample.actionText_shirt (by decide) Sample.plainTitle_buy
      Sample.plainValue_sku .carousel
  obtain rfl : code = "Buy:R-1" := by
    have hshown := Sample.payload?_wardrobe
    rw [← Content.Display.envelope, hview] at hshown
    exact Option.some.inj (hcode.symm.trans hshown)
  obtain ⟨-, hmatch, hkeep⟩ := hpress ⟨.web, .message Sample.purchase, none, none⟩ ⟨_, _, _, rfl⟩
  have htoken := (hkeep (Sample.order "sku") "sku"
    (Block.keepsPress_of_mem rfl (.inr rfl) List.mem_cons_self) .empty).2
    (by decide) (by decide) .empty .empty
  exact ⟨⟨v, hview, hcode⟩, hparse .web _ _ _ _ Sample.isMessage_purchase,
    hmatch _ _ _ List.mem_cons_self, htoken⟩

/-- A name with the token of another variable in it: the code is kept, but this token is replaced
before that of the variable. -/
theorem pressed_into_braces :
    ActionText Sample.shirt Sample.wardrobe.options.fields "R-1" ∧ PlainTitle "Buy" ∧
      PlainValue "R-1" ∧
      (view (.carousel Sample.wardrobe)).toOption.bind (·.payload? 0 0) = some "Buy:R-1" ∧
      Event.parse "web-channel" Sample.purchase.toJson =
        .ok ⟨.web, .message Sample.purchase, none, none⟩ ∧
      ⟨.payload, "{context.vars.a}"⟩ ∈ (Sample.order "{context.vars.a}").captures ∧
      (Context.empty.fold (Sample.order "{context.vars.a}")
        ⟨.web, .message Sample.purchase, none, none⟩).vars.find? "{context.vars.a}" =
          some (.str "Buy:R-1") ∧
      Template.render "{context.vars.{context.vars.a}}"
        (Context.empty.fold (Sample.order "{context.vars.a}")
          ⟨.web, .message Sample.purchase, none, none⟩)
        (.ofList [("a", .str "1")]) .empty = "{context.vars.1}" := by
  have hparse : Event.parse Site.web.channelName Sample.purchase.toJson =
      .ok ⟨.web, .message Sample.purchase, none, none⟩ :=
    Event.parse_eq_ok_iff.mpr ⟨_, rfl, Sample.isMessage_purchase⟩
  refine ⟨Sample.actionText_shirt, Sample.plainTitle_buy, Sample.plainValue_sku,
    Sample.payload?_wardrobe, hparse, List.mem_cons_self, ?_, ?_⟩
  · decide +kernel
  · decide +kernel

end Widget

end Chatflow
