import Chatflow.Proofs.Widget.Elements

/-!
# The links of an element

The buttons of an element that open a page lead to the link of the entry, and so does a press on the
element itself (`Widget.linksTo_element_iff`). A link without a scheme gets one, so that the address
is absolute. But the scheme is told by its first four letters, and what begins with them is left as
it is: `Widget.absolute_withScheme_iff` says for which links this goes well.
-/

namespace Chatflow

namespace Widget

/-! ### Schemes -/

/-- An address begins with a scheme for pages. -/
def Absolute (url : String) : Prop :=
  "http://".toList <+: url.toList ∨ "https://".toList <+: url.toList

instance (url : String) : Decidable (Absolute url) := inferInstanceAs (Decidable (_ ∨ _))

/-- A link begins like one with a scheme, and has none. -/
def Misleads (link : String) : Prop := "http".toList <+: link.toList ∧ ¬Absolute link

/-- A link that begins with the letters of a scheme is left as it is. -/
theorem withScheme_of_begins {link : String} (h : "http".toList <+: link.toList) :
    withScheme link = link := by
  rw [withScheme, if_pos (List.isPrefixOf_iff_prefix.mpr h)]

/-- Any other link gets a scheme. -/
theorem withScheme_of_not_begins {link : String} (h : ¬"http".toList <+: link.toList) :
    withScheme link = "https://" ++ link := by
  rw [withScheme, if_neg (by rwa [List.isPrefixOf_iff_prefix])]

/-- **An address is absolute unless its link misleads.** -/
theorem absolute_withScheme_iff {link : String} :
    Absolute (withScheme link) ↔ ¬Misleads link := by
  by_cases h : "http".toList <+: link.toList
  · rw [withScheme_of_begins h, Misleads, not_and_not_right]
    exact ⟨fun habsolute _ => habsolute, fun himp => himp h⟩
  · have habsolute : Absolute ("https://" ++ link) := by
      refine .inr ?_
      rw [String.toList_append]
      exact List.prefix_append _ _
    rw [withScheme_of_not_begins h]
    exact ⟨fun _ hmisleads => h hmisleads.1, fun _ => habsolute⟩

/-! ### Addresses of an element -/

/-- The link of an entry: the value that the options name, or else the one called `url`. What is not
a text is no link. -/
inductive Leads (entry : Json) (fields : Content.Fields) : String → Prop
  | named {v : Json} (h : Names entry fields.url v) : Leads entry fields (v.text?.getD "")
  | called {v : Json} (hnone : ∀ v, ¬Names entry fields.url v) (h : entry.get? "url" = some v) :
    Leads entry fields (v.text?.getD "")
  | nowhere (hnone : ∀ v, ¬Names entry fields.url v) (h : entry.get? "url" = none) :
    Leads entry fields ""

/-- An element leads to an address, by one of its buttons or by a press on itself. -/
inductive LinksTo (shown : Json) (url : String) : Prop
  | button {buttons : List Json} {b : Json} (h : shown.get? "buttons" = some (.arr buttons))
      (hb : b ∈ buttons) (hkind : b.get? "type" = some (.str "web_url"))
      (hurl : b.get? "url" = some (.str url))
  | action {a : Json} (h : shown.get? "default_action" = some a)
      (hurl : a.get? "url" = some (.str url))

/-- **The code follows the link that it should**, and no other. -/
theorem leads_iff {entry : Json} {fields : Content.Fields} {l : String} :
    Leads entry fields l ↔ l = link entry fields := by
  constructor
  · intro h
    cases h with
    | named h =>
      rw [link, mapped_eq_some_iff.mpr h]
      rfl
    | called hnone h =>
      rw [link, mapped_eq_none_iff.mpr hnone, h]
      rfl
    | nowhere hnone h =>
      rw [link, mapped_eq_none_iff.mpr hnone, h]
      rfl
  · rintro rfl
    rw [link]
    cases hmapped : mapped entry fields.url with
    | some v => exact .named (mapped_eq_some_iff.mp hmapped)
    | none =>
      have hnone := mapped_eq_none_iff.mp hmapped
      cases hurl : entry.get? "url" with
      | some v => exact .called hnone hurl
      | none => exact .nowhere hnone hurl

section

variable {o : Content.Options} {entry : Json} {t u url : String} {ratio : Option String}

theorem get?_type_toJson {b : Button} (h : b.toJson.get? "type" = some (.str "web_url")) :
    b.IsWeb := by
  cases b with
  | webUrl t u ratio => exact ⟨t, u, ratio, rfl⟩
  | postback t p =>
    rw [Button.toJson, Json.get?_record] at h
    exact absurd h (by simp [Dict.findEntry])

theorem get?_url_toJson : (Button.webUrl t u ratio).toJson.get? "url" = some (.str u) := by
  rw [Button.toJson, Json.get?_record]
  cases ratio <;> rfl

theorem get?_type_webUrl :
    (Button.webUrl t u ratio).toJson.get? "type" = some (.str "web_url") := by
  rw [Button.toJson, Json.get?_record]
  cases ratio <;> rfl

theorem get?_url_pressAction {a : Json} (h : pressAction? (.webUrl t u ratio) = some a) :
    a.get? "url" = some (.str u) := by
  rw [← Option.some.inj h, Json.get?_record]
  cases ratio <;> rfl

/-- All buttons of an element that open a page lead to the same address. -/
theorem eq_of_mem_renderedButtons (h : .webUrl t u ratio ∈ renderedButtons o entry) :
    u = withScheme (link entry o.fields) ∧ ∃ b ∈ o.buttons, b.IsWeb := by
  obtain ⟨i, b, hb, hrenders⟩ := (showsButtons_element o entry).exists_renders_of_mem h
  cases hrenders with
  | webUrl => exact ⟨rfl, _, hb, _, _, _, rfl⟩

/-- A button of the options that opens a page has a place in the element. -/
theorem exists_mem_renderedButtons (entry : Json) {b : Button} (hb : b ∈ o.buttons)
    (hweb : b.IsWeb) :
    ∃ t ratio, .webUrl t (withScheme (link entry o.fields)) ratio ∈ renderedButtons o entry := by
  obtain ⟨t, u, ratio, rfl⟩ := hweb
  obtain ⟨i, b', hb', hrenders⟩ := (showsButtons_element o entry).exists_mem_of_mem hb
  cases hrenders with
  | webUrl => exact ⟨_, _, hb'⟩

/-- **An element leads to one address**, if a button of the options opens a page. -/
theorem linksTo_element_iff : LinksTo (element o entry) url ↔
    (∃ b ∈ o.buttons, b.IsWeb) ∧ url = withScheme (link entry o.fields) := by
  have hbuttons := get?_buttons_rendered o entry
  constructor
  · intro h
    cases h with
    | button h hb hkind hurl =>
      rw [hbuttons] at h
      split at h
      · cases h
      · cases h
        obtain ⟨b, hmem, rfl⟩ := List.mem_map.mp hb
        obtain ⟨t, u, ratio, rfl⟩ := get?_type_toJson hkind
        obtain ⟨rfl, hweb⟩ := eq_of_mem_renderedButtons hmem
        rw [get?_url_toJson] at hurl
        cases hurl
        exact ⟨hweb, rfl⟩
    | action h hurl =>
      rw [get?_default_action_element, List.findSome?_eq_some_iff] at h
      obtain ⟨before, b, after, hsplit, haction, -⟩ := h
      have hmem : b ∈ renderedButtons o entry := by
        rw [hsplit]
        exact List.mem_append_right _ List.mem_cons_self
      cases b with
      | postback => cases haction
      | webUrl t u ratio =>
        obtain ⟨rfl, hweb⟩ := eq_of_mem_renderedButtons hmem
        rw [get?_url_pressAction haction] at hurl
        cases hurl
        exact ⟨hweb, rfl⟩
  · rintro ⟨⟨b, hb, hweb⟩, rfl⟩
    obtain ⟨t, ratio, hmem⟩ := exists_mem_renderedButtons entry hb hweb
    rw [if_neg (List.ne_nil_of_mem hmem)] at hbuttons
    exact .button hbuttons (List.mem_map_of_mem hmem) get?_type_webUrl get?_url_toJson

end

/-! ### Addresses of a view -/

/-- **Where lists and carousels lead.** Every button of an element that opens a page and a press on
the element lead to the link of the entry: as it is if it begins with `http`, and otherwise with
`https://` before it. This address is absolute unless the link begins so and has no scheme. -/
theorem links_absolute_iff {display : Content.Display} {page : ContentPage} {v : View}
    (h : view (display.envelope page) = .ok v) :
    v.data.get? "elements" = some (.arr v.elements) ∧
      v.elements.length = page.elements.length ∧
      ∀ (j : Nat) entry shown, page.elements[j]? = some entry → v.elements[j]? = some shown →
        ∃ l, Leads entry page.options.fields l ∧
          (∀ url, LinksTo shown url ↔ (∃ b ∈ page.options.buttons, b.IsWeb) ∧
            url = if "http".toList <+: l.toList then l else "https://" ++ l) ∧
          ∀ url, LinksTo shown url → (Absolute url ↔ ¬Misleads l) := by
  have hrefuses : ∀ cause, ¬Refuses (display.envelope page) cause := fun cause hcause => by
    rw [view_eq_error_iff.mpr hcause] at h
    cases h
  obtain ⟨v', hview, -, hdata⟩ := exists_view_envelope display hrefuses
  obtain rfl : v' = v := Except.ok.inj (hview.symm.trans h)
  have helements : v'.elements = page.elements.map (element page.options) := by
    rw [View.elements, hdata]
  refine ⟨by rw [helements, hdata], by rw [helements, List.length_map],
    fun j entry shown hentry hshown => ?_⟩
  rw [helements, List.getElem?_map, hentry] at hshown
  obtain rfl := Option.some.inj hshown
  refine ⟨_, leads_iff.mpr rfl, fun url => ?_, fun url hurl => ?_⟩
  · rw [linksTo_element_iff, withScheme]
    simp only [List.isPrefixOf_iff_prefix]
  · rw [(linksTo_element_iff.mp hurl).2, absolute_withScheme_iff]

/-- The mug of the catalogue has a link without a scheme, and leads to one with a scheme. -/
theorem links_absolute_iff_catalogue :
    ∃ v shown, view (.list Sample.catalogue) = .ok v ∧ v.elements[0]? = some shown ∧
      LinksTo shown "https://shop.example/mug" ∧ Absolute "https://shop.example/mug" := by
  obtain ⟨v, hview, -, hdata⟩ := exists_view_envelope .list Sample.not_refuses_catalogue
  obtain ⟨-, hlength, hlinks⟩ := links_absolute_iff hview
  have hlt : 0 < v.elements.length := by rw [hlength]; decide
  obtain ⟨l, hleads, hiff, habsolute⟩ := hlinks 0 _ _ rfl (List.getElem?_eq_getElem hlt)
  obtain rfl : l = "shop.example/mug" := (leads_iff.mp hleads).trans (by decide +kernel)
  have hlinked : LinksTo v.elements[0] "https://shop.example/mug" :=
    (hiff _).mpr ⟨⟨_, List.mem_cons_self, _, _, _, rfl⟩, by decide +kernel⟩
  exact ⟨v, _, hview, List.getElem?_eq_getElem hlt, hlinked,
    (habsolute _ hlinked).mpr fun hmisleads => absurd hmisleads.1 (by decide)⟩

end Widget

namespace Sample

/-- An entry whose link has no scheme, and begins with the letters of one. -/
def bins : ContentPage where
  elements := [.record [("title", .str "Bin"), ("url", .str "httpbin.org/get")]]
  pagination := ⟨1, 0, 1⟩
  options :=
    { display := .list
      contentType := "bins"
      fields := { Content.Fields.empty with title := "title" }
      buttons := [.webUrl "Open" "" none]
      limit := 1
      topElementStyle := none }

end Sample

namespace Widget

/-- The link is left without a scheme, in the button and in the action. -/
theorem link_unprefixed :
    ∃ v, view (.list Sample.bins) = .ok v ∧
      v.data.get? "elements" = some (.arr [.record [("title", .str "Bin"),
        ("buttons", .arr [.record [("type", .str "web_url"), ("title", .str "Open"),
          ("url", .str "httpbin.org/get")]]),
        ("default_action", .record [("type", .str "web_url"), ("url", .str "httpbin.org/get")])]]) ∧
      ¬Absolute "httpbin.org/get" :=
  ⟨_, rfl, by decide +kernel, by decide⟩

end Widget

end Chatflow
