import Chatflow.Proofs.Dict
import Chatflow.Proofs.Widget.Buttons

/-!
# The elements of a page

A list or a carousel is refused for three reasons only (`Widget.Refuses`), and otherwise has one
element for each entry. What an element does is described by what is in its two fields: the buttons
of the options, each in its place and of its kind, and the action of a press on the element itself
(`Widget.ShowsButtons`).

The action comes from a button that has not been given its title by the entry yet. That makes no
difference, since a title is no part of the action (`Widget.findSome?_retitle`): it is the first
button that opens a page, as it stands in the element, without its title.
-/

namespace Chatflow

/-! ### Without a field -/

/-- An object without a field; other values stay. -/
def Json.without (name : String) : Json → Json
  | .obj fields => .obj (fields.filter (·.1 ≠ name))
  | v => v

theorem Json.without_ofDict (name : String) (d : Dict Json) :
    (ofDict d).without name = ofDict (d.erase name) := rfl

/-- The button opens a page. -/
def Button.IsWeb (b : Button) : Prop := ∃ title url ratio, b = .webUrl title url ratio

namespace Widget

/-! ### What is refused -/

/-- A page has no elements to be shown in this way, and this is why. -/
inductive Unfit (display : Content.Display) (page : ContentPage) : ChannelError → Prop
  /-- There is no entry. -/
  | bare (h : page.elements = []) :
    Unfit display page (.sendFailed ("insufficient content count for " ++ display.name))
  /-- There are entries, but no field for their titles. -/
  | untitled (h : page.elements ≠ []) (htitle : page.options.fields.title = "") :
    Unfit display page (.sendFailed "content options are missing the title field")

/-- An envelope is not shown, and this is why. -/
inductive Refuses : Envelope → ChannelError → Prop
  /-- It is a note to the system. -/
  | system (outcome : Option String) (data : Option Json) :
    Refuses (.system outcome data) (.unsupportedFormat "system")
  | list {page : ContentPage} {cause : ChannelError} (h : Unfit .list page cause) :
    Refuses (.list page) cause
  | carousel {page : ContentPage} {cause : ChannelError} (h : Unfit .carousel page cause) :
    Refuses (.carousel page) cause

/-! ### Buttons of an element -/

/-- The options name a field that the entry has. -/
def Names (entry : Json) (field : Option String) (v : Json) : Prop :=
  ∃ name, field = some name ∧ entry.get? name = some v

/-- What the buttons of an entry send back after their titles: the value that the options name, or
else the one called `title`, or nothing. -/
inductive Sends (entry : Json) (fields : Content.Fields) : String → Prop
  | named {v : Json} (h : Names entry fields.actionPayload v) : Sends entry fields v.display
  | titled {v : Json} (hnone : ∀ v, ¬Names entry fields.actionPayload v)
      (h : entry.get? "title" = some v) : Sends entry fields v.display
  | nothing (hnone : ∀ v, ¬Names entry fields.actionPayload v) (h : entry.get? "title" = none) :
    Sends entry fields ""

/-- The button at this place has this title under an entry, and that one in the options. -/
inductive Titles (entry : Json) (fields : Content.Fields) : Nat → String → String → Prop
  /-- The entry has a text for the first button. -/
  | replaced {t t' : String} (h : Names entry fields.actionTitle (.str t')) :
    Titles entry fields 0 t t'
  /-- The entry has none, or it is another button. -/
  | kept {i : Nat} {t : String} (h : i = 0 → ∀ s, ¬Names entry fields.actionTitle (.str s)) :
    Titles entry fields i t t

/-- A button of the options and what becomes of it at its place under an entry. -/
inductive Renders (entry : Json) (fields : Content.Fields) (i : Nat) : Button → Button → Prop
  | postback {t p t' s : String} (htitle : Titles entry fields i t t')
      (hsends : Sends entry fields s) :
    Renders entry fields i (.postback t p) (.postback t' (t ++ ":" ++ s))
  | webUrl {t u t' : String} {ratio : Option String} (htitle : Titles entry fields i t t') :
    Renders entry fields i (.webUrl t u ratio)
      (.webUrl t' (withScheme (link entry fields)) ratio)

/-- An element shows these buttons for an entry. -/
structure ShowsButtons (o : Content.Options) (entry shown : Json) (rendered : List Button) :
    Prop where
  /-- There are as many as the options have. -/
  length : rendered.length = o.buttons.length
  /-- Each is what becomes of the one at its place. -/
  each : ∀ (i : Nat) (b b' : Button), o.buttons[i]? = some b → rendered[i]? = some b' →
    Renders entry o.fields i b b'
  /-- They are a field of the element if there are any. -/
  field : shown.get? "buttons" =
    if rendered = [] then none else some (.arr (rendered.map Button.toJson))
  /-- A press on the element does something if a button of the options opens a page. -/
  action_iff : (∃ action, shown.get? "default_action" = some action) ↔ ∃ b ∈ o.buttons, b.IsWeb
  /-- It does what the first such button does: it is that button without its title. -/
  action : ∀ (i : Nat) (b : Button), rendered[i]? = some b → b.IsWeb →
    (∀ j < i, ∀ b' : Button, rendered[j]? = some b' → ¬b'.IsWeb) →
    shown.get? "default_action" = some (b.toJson.without "title")

section

variable {entry : Json} {fields : Content.Fields}

theorem mapped_eq_some_iff {field : Option String} {v : Json} :
    mapped entry field = some v ↔ Names entry field v := by
  rw [mapped, Option.bind_eq_some_iff]
  rfl

theorem mapped_eq_none_iff {field : Option String} :
    mapped entry field = none ↔ ∀ v, ¬Names entry field v := by
  simp only [Option.eq_none_iff_forall_not_mem, Option.mem_def, mapped_eq_some_iff]

/-- The code sends back what it should. -/
theorem sends_actionValue (entry : Json) (fields : Content.Fields) :
    Sends entry fields (actionValue entry fields) := by
  rw [actionValue]
  cases hmapped : mapped entry fields.actionPayload with
  | some v => exact .named (mapped_eq_some_iff.mp hmapped)
  | none =>
    have hnone := mapped_eq_none_iff.mp hmapped
    cases htitle : entry.get? "title" with
    | some v => exact .titled hnone htitle
    | none => exact .nothing hnone htitle

/-- The title that an entry gives is a text that it names. -/
theorem actionTitle_eq_some_iff {s : String} :
    (mapped entry fields.actionTitle).bind Json.text? = some s ↔
      Names entry fields.actionTitle (.str s) := by
  rw [← mapped_eq_some_iff, Option.bind_eq_some_iff]
  constructor
  · rintro ⟨v, hv, htext⟩
    cases v with
    | str t => rwa [← Option.some.inj htext]
    | _ => cases htext
  · exact fun h => ⟨_, h, rfl⟩

/-- Under another title, a button at its place is what it should be. -/
theorem renders_withTitle {i : Nat} {t' : String} {b : Button}
    (h : Titles entry fields i b.title t') :
    Renders entry fields i b ((buttonFor entry fields b).withTitle t') := by
  cases b with
  | postback t p => exact .postback h (sends_actionValue entry fields)
  | webUrl t u ratio => exact .webUrl h

theorem withTitle_title_buttonFor (b : Button) :
    (buttonFor entry fields b).withTitle b.title = buttonFor entry fields b := by
  cases b <;> rfl

/-- **Each button becomes what it should**, at its place. -/
theorem renders_retitle {buttons : List Button} {i : Nat} {b b' : Button}
    (hb : buttons[i]? = some b)
    (hb' : (retitle entry fields (buttons.map (buttonFor entry fields)))[i]? = some b') :
    Renders entry fields i b b' := by
  have hkept : (i = 0 → ∀ s, ¬Names entry fields.actionTitle (.str s)) →
      Renders entry fields i b (buttonFor entry fields b) := fun h => by
    have := renders_withTitle (b := b) (.kept h)
    rwa [withTitle_title_buttonFor] at this
  cases buttons with
  | nil => cases hb
  | cons first rest =>
    rw [List.map_cons, retitle] at hb'
    cases i with
    | zero =>
      obtain rfl := Option.some.inj hb
      obtain rfl := Option.some.inj hb'
      cases htitle : (mapped entry fields.actionTitle).bind Json.text? with
      | some t' => exact renders_withTitle (.replaced (actionTitle_eq_some_iff.mp htitle))
      | none =>
        refine hkept fun _ s hs => ?_
        rw [actionTitle_eq_some_iff.mpr hs] at htitle
        cases htitle
    | succ i =>
      rw [List.getElem?_cons_succ] at hb hb'
      rw [List.getElem?_map, hb] at hb'
      obtain rfl := Option.some.inj hb'
      exact hkept fun h => absurd h (Nat.succ_ne_zero i)

theorem length_retitle (buttons : List Button) :
    (retitle entry fields buttons).length = buttons.length := by
  cases buttons <;> rfl

theorem retitle_eq_nil_iff {buttons : List Button} :
    retitle entry fields buttons = [] ↔ buttons = [] := by
  rw [← List.length_eq_zero_iff, length_retitle, List.length_eq_zero_iff]

/-! ### The action of an element -/

theorem pressAction?_withTitle (t : String) (b : Button) :
    pressAction? (b.withTitle t) = pressAction? b := by
  cases b <;> rfl

/-- What the entry makes of the first title changes no action. -/
theorem findSome?_retitle (buttons : List Button) :
    (retitle entry fields buttons).findSome? pressAction? = buttons.findSome? pressAction? := by
  cases buttons with
  | nil => rfl
  | cons b rest =>
    rw [retitle, List.findSome?_cons, List.findSome?_cons]
    cases (mapped entry fields.actionTitle).bind Json.text? with
    | none => rfl
    | some t => rw [Option.elim_some, pressAction?_withTitle]

/-- A button that opens a page has an action: itself without its title. -/
theorem pressAction?_of_isWeb {b : Button} (h : b.IsWeb) :
    pressAction? b = some (b.toJson.without "title") := by
  obtain ⟨title, url, ratio, rfl⟩ := h
  rw [pressAction?, Button.toJson, Json.record, Json.record, Json.without_ofDict]
  refine congrArg (some ∘ Json.ofDict) (Dict.ext_find? fun k => ?_)
  rw [Dict.find?_erase, Dict.find?_ofList, Dict.find?_ofList]
  cases ratio <;> simp [Json.field?, Dict.findEntry] <;> grind

theorem isSome_pressAction?_iff {b : Button} : (pressAction? b).isSome = true ↔ b.IsWeb := by
  cases b <;> simp [pressAction?, Button.IsWeb]

theorem pressAction?_eq_none_iff {b : Button} : pressAction? b = none ↔ ¬b.IsWeb := by
  rw [← isSome_pressAction?_iff, Bool.not_eq_true, Option.isSome_eq_false_iff,
    Option.isNone_iff_eq_none]

theorem isWeb_buttonFor {b : Button} : (buttonFor entry fields b).IsWeb ↔ b.IsWeb := by
  cases b <;> simp [buttonFor, Button.IsWeb]

end

/-! ### Fields of an element -/

variable (o : Content.Options) (entry : Json)

/-- The buttons as they stand in the element. -/
def renderedButtons : List Button :=
  retitle entry o.fields (o.buttons.map (buttonFor entry o.fields))

/-- The action of an element is that of its first button that opens a page. -/
theorem get?_default_action_element : (element o entry).get? "default_action" =
    (renderedButtons o entry).findSome? pressAction? := by
  rw [renderedButtons, findSome?_retitle, element, Json.get?_record]
  cases (o.buttons.map (buttonFor entry o.fields)).findSome? pressAction? <;>
    cases (o.buttons.map (buttonFor entry o.fields)).isEmpty <;>
    cases mapped entry o.fields.subtitle <;>
    cases (mapped entry o.fields.imageUrl).bind pictureUrl? <;> rfl

theorem get?_buttons_rendered : (element o entry).get? "buttons" =
    if renderedButtons o entry = [] then none
    else some (.arr ((renderedButtons o entry).map Button.toJson)) := by
  by_cases hbuttons : o.buttons = []
  · rw [renderedButtons, if_pos (by rw [retitle_eq_nil_iff, hbuttons]; rfl), element,
      Json.get?_record, hbuttons]
    cases mapped entry o.fields.subtitle <;>
      cases (mapped entry o.fields.imageUrl).bind pictureUrl? <;> rfl
  · rw [renderedButtons, if_neg (by simpa [retitle_eq_nil_iff] using hbuttons),
      get?_buttons_element hbuttons]

/-- **An element shows the buttons of the options.** -/
theorem showsButtons_element :
    ShowsButtons o entry (element o entry) (renderedButtons o entry) where
  length := by rw [renderedButtons, length_retitle, List.length_map]
  each i b b' hb hb' := renders_retitle hb hb'
  field := get?_buttons_rendered o entry
  action_iff := by
    rw [get?_default_action_element, renderedButtons, findSome?_retitle,
      ← Option.isSome_iff_exists, List.findSome?_isSome_iff]
    simp only [isSome_pressAction?_iff, List.mem_map, exists_exists_and_eq_and, isWeb_buttonFor]
  action i b hb hweb hfirst := by
    rw [get?_default_action_element, List.findSome?_eq_some_iff]
    obtain ⟨hi, rfl⟩ := List.getElem?_eq_some_iff.mp hb
    refine ⟨(renderedButtons o entry).take i, _, (renderedButtons o entry).drop (i + 1), ?_,
      pressAction?_of_isWeb hweb, fun b' hb' => pressAction?_eq_none_iff.mpr ?_⟩
    · rw [List.cons_getElem_drop_succ, List.take_append_drop]
    · obtain ⟨j, hj, rfl⟩ := List.mem_take_iff_getElem.mp hb'
      exact hfirst j (by omega) _ (List.getElem?_eq_getElem _)

section

variable {o entry} {shown : Json} {rendered : List Button} {b : Button}

/-- A button of the element is there for one of the options. -/
theorem ShowsButtons.exists_renders_of_mem (h : ShowsButtons o entry shown rendered)
    (hb : b ∈ rendered) : ∃ i, ∃ b₀ ∈ o.buttons, Renders entry o.fields i b₀ b := by
  obtain ⟨i, hi⟩ := List.mem_iff_getElem?.mp hb
  have hlt : i < o.buttons.length := by
    rw [← h.length]
    exact (List.getElem?_eq_some_iff.mp hi).1
  have hb₀ := List.getElem?_eq_getElem hlt
  exact ⟨i, _, List.mem_of_getElem? hb₀, h.each i _ _ hb₀ hi⟩

/-- For a button of the options there is one in the element. -/
theorem ShowsButtons.exists_mem_of_mem (h : ShowsButtons o entry shown rendered)
    (hb : b ∈ o.buttons) : ∃ i, ∃ b' ∈ rendered, Renders entry o.fields i b b' := by
  obtain ⟨i, hi⟩ := List.mem_iff_getElem?.mp hb
  have hlt : i < rendered.length := by
    rw [h.length]
    exact (List.getElem?_eq_some_iff.mp hi).1
  have hb' := List.getElem?_eq_getElem hlt
  exact ⟨i, _, List.mem_of_getElem? hb', h.each i _ _ hi hb'⟩

end

/-! ### Lists and carousels -/

section

variable {display : Content.Display} {page : ContentPage} {e : Envelope} {cause : ChannelError}

theorem elements_eq_error_iff :
    elements page display.name = .error cause ↔ Unfit display page cause := by
  constructor
  · intro h
    rw [elements] at h
    split at h
    · rename_i hbare
      cases h
      exact .bare (List.isEmpty_iff.mp hbare)
    · rename_i hpage
      split at h
      · rename_i htitle
        cases h
        exact .untitled (by simpa using hpage) (by simpa using htitle)
      · cases h
  · intro h
    cases h with
    | bare h => rw [elements, if_pos (by simpa using h)]
    | untitled h htitle => rw [elements, if_neg (by simpa using h), if_pos (by simpa using htitle)]

/-- A page that is not unfit has its elements. -/
theorem elements_of_not_unfit (h : ∀ cause, ¬Unfit display page cause) :
    elements page display.name = .ok (page.elements.map (element page.options)) := by
  have hpage : page.elements ≠ [] := fun hbare => h _ (.bare hbare)
  exact elements_eq hpage (fun htitle => h _ (.untitled hpage htitle)) _

/-- A page is refused if its elements are. -/
theorem view_envelope_eq_error_iff (display : Content.Display) :
    view (display.envelope page) = .error cause ↔ Unfit display page cause := by
  rw [← elements_eq_error_iff]
  cases display with
  | list =>
    rw [Content.Display.envelope, view, Content.Display.name]
    cases elements page "list" <;> simp [bind, Except.bind]
  | carousel =>
    rw [Content.Display.envelope, view, Content.Display.name]
    cases elements page "carousel" <;> simp [bind, Except.bind]

/-- **What is refused, and why.** -/
theorem view_eq_error_iff : view e = .error cause ↔ Refuses e cause := by
  constructor
  · intro h
    cases e with
    | system outcome data =>
      obtain rfl := Except.error.inj h
      exact .system outcome data
    | list page => exact .list ((view_envelope_eq_error_iff .list).mp h)
    | carousel page => exact .carousel ((view_envelope_eq_error_iff .carousel).mp h)
    | _ => cases h
  · intro h
    cases h with
    | system outcome data => rfl
    | list h => exact (view_envelope_eq_error_iff .list).mpr h
    | carousel h => exact (view_envelope_eq_error_iff .carousel).mpr h

/-- A list or a carousel that is not refused has one element for each entry, which is made of
nothing but the entry and the options. -/
theorem exists_view_envelope (display : Content.Display)
    (h : ∀ cause, ¬Refuses (display.envelope page) cause) :
    ∃ v, view (display.envelope page) = .ok v ∧ v.type = display.name ∧
      v.data.get? "elements" = some (.arr (page.elements.map (element page.options))) := by
  cases display with
  | list =>
    have helements : elements page "list" = .ok _ :=
      elements_of_not_unfit fun cause hcause => h cause (.list hcause)
    refine ⟨_, by rw [Content.Display.envelope, view, helements]; rfl, rfl, ?_⟩
    rw [Json.get?_record]
    cases page.options.topElementStyle <;> rfl
  | carousel =>
    have helements : elements page "carousel" = .ok _ :=
      elements_of_not_unfit fun cause hcause => h cause (.carousel hcause)
    exact ⟨_, by rw [Content.Display.envelope, view, helements]; rfl, rfl, rfl⟩

end

/-- **Lists and carousels show their entries.** An envelope is refused for the reasons given above
only. Any other list or carousel has one element for each entry, in their order, which is made of
the options and of that entry. Each has the buttons of the options: of their kinds and in their
places, sending back the title in the options and the value of the entry, under the title in the
options unless the entry has another for the first. A press on the element does what the first of
them does that opens a page, if there is one. -/
theorem entries_shown :
    (∀ e cause, view e = .error cause ↔ Refuses e cause) ∧
      ∀ (display : Content.Display) (page : ContentPage),
        (∀ cause, ¬Refuses (display.envelope page) cause) →
          ∃ v, view (display.envelope page) = .ok v ∧ v.type = display.name ∧
            v.data.get? "elements" = some (.arr (page.elements.map (element page.options))) ∧
            ∀ entry ∈ page.elements, ∃ rendered,
              ShowsButtons page.options entry (element page.options entry) rendered := by
  refine ⟨fun e cause => view_eq_error_iff, fun display page h => ?_⟩
  obtain ⟨v, hview, htype, helements⟩ := exists_view_envelope display h
  exact ⟨v, hview, htype, helements, fun entry _ => ⟨_, showsButtons_element page.options entry⟩⟩

end Widget

namespace Sample

/-- Two things to buy: one has a text for its button, and a link without a scheme. -/
def catalogue : ContentPage where
  elements :=
    [.record [("title", .str "Mug"), ("link", .str "shop.example/mug"), ("cta", .str "See it")],
      .record [("title", .str "Cap"), ("link", .str "https://shop.example/cap")]]
  pagination := ⟨2, 0, 2⟩
  options :=
    { display := .list
      contentType := "products"
      fields := { Content.Fields.empty with
        title := "title", url := some "link", actionTitle := some "cta" }
      buttons := [.webUrl "Open" "" (some "tall"), .postback "Buy" ""]
      limit := 2
      topElementStyle := none }

/-- What is shown of the catalogue. -/
def catalogueShown : List Json :=
  [.record [("title", .str "Mug"),
    ("buttons", .arr [
      .record [("type", .str "web_url"), ("title", .str "See it"),
        ("url", .str "https://shop.example/mug"), ("webview_height_ratio", .str "tall")],
      .record [("type", .str "postback"), ("title", .str "Buy"), ("payload", .str "Buy:Mug")]]),
    ("default_action", .record [("type", .str "web_url"), ("url", .str "https://shop.example/mug"),
      ("webview_height_ratio", .str "tall")])],
    .record [("title", .str "Cap"),
    ("buttons", .arr [
      .record [("type", .str "web_url"), ("title", .str "Open"),
        ("url", .str "https://shop.example/cap"), ("webview_height_ratio", .str "tall")],
      .record [("type", .str "postback"), ("title", .str "Buy"), ("payload", .str "Buy:Cap")]]),
    ("default_action", .record [("type", .str "web_url"), ("url", .str "https://shop.example/cap"),
      ("webview_height_ratio", .str "tall")])]]

theorem not_refuses_catalogue (cause : ChannelError) : ¬Widget.Refuses (.list catalogue) cause := by
  intro h
  cases h with
  | list h =>
    cases h with
    | bare h => cases h
    | untitled _ h => exact absurd h (by decide)

end Sample

namespace Widget

/-- Both entries of the catalogue are shown, and only the first gives its button a text. -/
theorem entries_shown_catalogue :
    (∀ cause, ¬Refuses (.list Sample.catalogue) cause) ∧
      ∃ v, view (.list Sample.catalogue) = .ok v ∧ v.type = "list" ∧
        v.data.get? "elements" = some (.arr Sample.catalogueShown) := by
  obtain ⟨v, hview, htype, helements, -⟩ :=
    entries_shown.2 .list Sample.catalogue Sample.not_refuses_catalogue
  refine ⟨Sample.not_refuses_catalogue, v, hview, htype, ?_⟩
  rw [helements]
  decide +kernel

end Widget

end Chatflow
