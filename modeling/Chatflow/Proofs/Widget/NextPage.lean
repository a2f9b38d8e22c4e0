import Chatflow.Proofs.Block.Encoding
import Chatflow.Proofs.Widget.Elements

/-!
# The button for the next page

A list has the button for the next page as long as there are entries after the page. To find out,
the entries up to the end of the page are counted (`Pagination.reach`), in 64 bits. That is enough
for every page of a content store. But a page may also be read from a message, or be the answer of
an executor, and then its numbers are anything. Past the range the count begins again at zero, which
the view gives away (`View.overflow`), and there may be a button below a page with nothing after it:
`Widget.next_page_counted`.
-/

namespace Chatflow

/-! ### Pages that are read -/

theorem Pagination.ofJson?_toJson (p : Pagination) : ofJson? p.toJson = some p := by
  refine read_record fun d hd => ?_
  have htotal : d.find? "total" = some (.nat p.total.toNat) := by simp [hd]
  have hskip : d.find? "skip" = some (.nat p.skip.toNat) := by simp [hd]
  have hlimit : d.find? "limit" = some (.nat p.limit.toNat) := by simp [hd]
  simp [ofJson?, Record.required_ofDict htotal (Decode.uint64_nat _),
    Record.required_ofDict hskip (Decode.uint64_nat _),
    Record.required_ofDict hlimit (Decode.uint64_nat _)]

theorem ContentPage.ofJson?_toJson (p : ContentPage) : ofJson? p.toJson = some p := by
  have hlist : Decode.list Decode.any (.arr p.elements) = some p.elements := by
    have hread : Decode.list Decode.any (.arr (p.elements.map id)) = some p.elements :=
      Decode.list_map fun v _ => Decode.any_eq v
    rwa [List.map_id] at hread
  refine read_record fun d hd => ?_
  have helements : d.find? "elements" = some (.arr p.elements) := by simp [hd]
  have hpagination : d.find? "pagination" = some p.pagination.toJson := by simp [hd]
  have hoptions : d.find? "options" = some p.options.toJson := by simp [hd]
  simp [ofJson?, Record.required_ofDict helements hlist,
    Record.required_ofDict hpagination p.pagination.ofJson?_toJson,
    Record.required_ofDict hoptions p.options.ofJson?_toJson]

/-- **Any page may come in a message.** -/
theorem Envelope.ofJson?_list (p : ContentPage) :
    Envelope.ofJson? (Envelope.list p).toJson = some (.list p) := by
  refine read_record fun d hd => ?_
  have hformat : Decode.choice (formats.map fun f => (f, f)) (.str "list") = some "list" := rfl
  simp [ofJson?, Record.required, hd, hformat, format, messageJson, ofMessage?,
    p.ofJson?_toJson]

namespace Widget

/-! ### What a list shows -/

theorem overflows_iff {p : Pagination} : overflows p = true ↔ 2 ^ 64 ≤ p.reach :=
  decide_eq_true_iff

theorem hasMore_of_reach_lt {p : Pagination} (h : p.reach < 2 ^ 64) :
    hasMore p = true ↔ p.reach < p.total.toNat := by
  rw [hasMore_iff, Nat.mod_eq_of_lt h]

/-- Past the range the count is too small. -/
theorem hasMore_of_le_reach {p : Pagination} (h : 2 ^ 64 ≤ p.reach) :
    hasMore p = true ↔ p.reach - 2 ^ 64 < p.total.toNat := by
  have hskip := p.skip.toNat_lt
  have hlimit := p.limit.toNat_lt
  have hreach : p.reach - 2 ^ 64 < 2 ^ 64 := by
    rw [Pagination.reach]
    omega
  rw [hasMore_iff, Nat.mod_eq_sub_mod h, Nat.mod_eq_of_lt hreach]

theorem not_reach_lt_total {p : Pagination} (h : 2 ^ 64 ≤ p.reach) :
    ¬p.reach < p.total.toNat := by
  have htotal := p.total.toNat_lt
  omega

/-- **When a list has the button for the next page.** A page is given whose list is not refused; it
may be any such page, since every page can be read from a message. The list has this button alone,
or none. If the entries up to the end of the page can be counted in 64 bits, it has the button
exactly if there are entries after the page; and so they can if the page is one of a content store.
If they cannot, there are none after the page. The view gives away that the count has left its
range, and there is a button if the count less the range is below the number of entries. -/
theorem next_page_counted {page : ContentPage} (h : ∀ cause, ¬Refuses (.list page) cause) :
    Envelope.ofJson? (Envelope.list page).toJson = some (.list page) ∧
      (∀ (s : ContentStore) (o : Content.Options) (skip : UInt32), page = s.page o skip →
        page.pagination.reach < 2 ^ 64) ∧
      ∃ v, view (.list page) = .ok v ∧
        (v.data.get? "buttons" = some (.arr [moreButton.toJson]) ∧ v.OffersMore ∨
          v.data.get? "buttons" = some (.arr []) ∧ ¬v.OffersMore) ∧
        (page.pagination.reach < 2 ^ 64 → v.overflow = false ∧
          (v.OffersMore ↔ page.pagination.reach < page.pagination.total.toNat)) ∧
        (2 ^ 64 ≤ page.pagination.reach → v.overflow = true ∧
          ¬page.pagination.reach < page.pagination.total.toNat ∧
          (v.OffersMore ↔ page.pagination.reach - 2 ^ 64 < page.pagination.total.toNat)) := by
  refine ⟨Envelope.ofJson?_list page, fun s o skip hpage => hpage ▸ reach_page_lt s o skip, ?_⟩
  have helements : elements page "list" = .ok _ :=
    elements_of_not_unfit fun cause hcause => h cause (.list hcause)
  obtain ⟨v, hview, -, hoverflow, hbuttons⟩ := exists_view_of_elements helements
  have hoffers : v.OffersMore ↔ hasMore page.pagination = true := View.offersMore_iff hbuttons
  refine ⟨v, hview, ?_, fun hreach => ⟨?_, ?_⟩, fun hreach => ⟨?_, not_reach_lt_total hreach, ?_⟩⟩
  · rw [hoffers, hbuttons]
    cases hasMore page.pagination with
    | true => exact .inl ⟨rfl, rfl⟩
    | false => exact .inr ⟨rfl, Bool.false_ne_true⟩
  · rw [hoverflow, ← Bool.not_eq_true, overflows_iff]
    exact Nat.not_le.mpr hreach
  · exact hoffers.trans (hasMore_of_reach_lt hreach)
  · exact hoverflow.trans (overflows_iff.mpr hreach)
  · exact hoffers.trans (hasMore_of_le_reach hreach)

/-- The catalogue is on one page, and there is no button for another. -/
theorem next_page_counted_catalogue :
    (∀ cause, ¬Refuses (.list Sample.catalogue) cause) ∧
      ∃ v, view (.list Sample.catalogue) = .ok v ∧ v.overflow = false ∧ ¬v.OffersMore := by
  obtain ⟨-, -, v, hview, -, hcounted, -⟩ := next_page_counted Sample.not_refuses_catalogue
  obtain ⟨hoverflow, hoffers⟩ := hcounted (by decide)
  exact ⟨Sample.not_refuses_catalogue, v, hview, hoverflow,
    fun hmore => absurd (hoffers.mp hmore) (by decide)⟩

end Widget

namespace Sample

/-- A page that is said to begin after as many entries as 64 bits can count. -/
def farPage : ContentPage where
  elements := [.record [("title", .str "Mug")]]
  pagination := ⟨1, 18446744073709551615, 1⟩
  options :=
    { display := .list
      contentType := "products"
      fields := { Content.Fields.empty with title := "title" }
      buttons := []
      limit := 1
      topElementStyle := none }

end Sample

namespace Widget

/-- There is nothing after a page that is read from a message, but the count has left its range and
there is a button. -/
theorem next_page_miscounted :
    Envelope.ofJson? (Envelope.list Sample.farPage).toJson = some (.list Sample.farPage) ∧
      ¬Sample.farPage.pagination.reach < Sample.farPage.pagination.total.toNat ∧
      ∃ v, view (.list Sample.farPage) = .ok v ∧ v.overflow = true ∧ v.OffersMore := by
  refine ⟨Envelope.ofJson?_list _, by decide, _, rfl, rfl, ?_⟩
  exact ⟨[moreButton.toJson], rfl, List.mem_cons_self⟩

end Widget

end Chatflow
