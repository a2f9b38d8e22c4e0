import Chatflow.Proofs.Context
import Chatflow.Rendering.Message
import Chatflow.Widget.Format
import Mathlib.Algebra.Order.Floor.Div

/-!
# Pages of content

A block may list the entries of a content type, a page at a time. Each page is shown when the user
asks for more, which the button below the page before it does. Four places have to agree for that:
the context keeps the reading position and moves it on (`Context.skipFor_fold`), the store cuts the
page out of the entries, the block is rendered as a list, and the widget counts whether there is
more (`Widget.hasMore_page`).

They do: `Renderer.browses_pages`. Its induction is on the number of pages that are left, and what
carries it is that the reading position is the number of entries on the pages before.
-/

namespace Chatflow

/-! ### Lists in a widget -/

namespace Widget

namespace View

/-- The elements that a view shows. -/
def elements (v : View) : List Json :=
  match v.data.get? "elements" with
  | some (.arr shown) => shown
  | _ => []

/-- A view has the button for the next page. -/
def OffersMore (v : View) : Prop :=
  ∃ buttons, v.data.get? "buttons" = some (.arr buttons) ∧ moreButton.toJson ∈ buttons

theorem offersMore_iff {v : View} {more : Bool} (h : v.data.get? "buttons" =
    some (.arr (if more then [moreButton.toJson] else []))) : v.OffersMore ↔ more = true := by
  rw [OffersMore, h]
  cases more <;> simp

end View

/-- A page that is not empty has the elements of its entries, if there is a field for the titles. -/
theorem elements_eq {page : ContentPage} (hpage : page.elements ≠ [])
    (htitle : page.options.fields.title ≠ "") (display : String) :
    elements page display = .ok (page.elements.map (element page.options)) := by
  rw [elements, if_neg (by simpa using hpage), if_neg (by simpa using htitle)]

/-- A list shows the elements of its page. It has the button for the next page and no other, or
none. -/
theorem exists_view_of_elements {page : ContentPage} {shown : List Json}
    (h : elements page "list" = .ok shown) :
    ∃ v, view (.list page) = .ok v ∧ v.elements = shown ∧ v.overflow = overflows page.pagination ∧
      v.data.get? "buttons" =
        some (.arr (if hasMore page.pagination then [moreButton.toJson] else [])) := by
  refine ⟨_, by rw [view, h]; rfl, ?_, rfl, ?_⟩
  · rw [View.elements, Json.get?_record]
    cases page.options.topElementStyle <;> rfl
  · rw [Json.get?_record]
    cases page.options.topElementStyle <;> rfl

/-- A page that is not empty is shown, if there is a field for the titles. -/
theorem exists_view_list {page : ContentPage} (hpage : page.elements ≠ [])
    (htitle : page.options.fields.title ≠ "") :
    ∃ v, view (.list page) = .ok v ∧ v.elements = page.elements.map (element page.options) ∧
      (v.OffersMore ↔ hasMore page.pagination = true) := by
  obtain ⟨v, hview, helements, -, hbuttons⟩ :=
    exists_view_of_elements (elements_eq hpage htitle "list")
  exact ⟨v, hview, helements, View.offersMore_iff hbuttons⟩

end Widget

/-- The number of entries up to the end of a page. -/
def Pagination.reach (p : Pagination) : Nat := p.skip.toNat + p.limit.toNat

namespace Widget

/-- The entries up to the end of a page are counted in 64 bits. -/
theorem hasMore_iff {p : Pagination} : hasMore p = true ↔ p.reach % 2 ^ 64 < p.total.toNat := by
  rw [hasMore, decide_eq_true_eq, UInt64.lt_iff_toNat_lt, UInt64.toNat_add, Pagination.reach]

theorem reach_page (s : ContentStore) (o : Content.Options) (skip : UInt32) :
    (s.page o skip).pagination.reach = skip.toNat + o.limit.toNat := by
  rw [Pagination.reach, ContentStore.page, UInt32.toNat_toUInt64, UInt32.toNat_toUInt64]

/-- They are not too many on a page of a store. -/
theorem reach_page_lt (s : ContentStore) (o : Content.Options) (skip : UInt32) :
    (s.page o skip).pagination.reach < 2 ^ 64 := by
  have hskip := skip.toNat_lt
  have hlimit := o.limit.toNat_lt
  rw [reach_page]
  omega

/-- There is more as long as entries are left, which are too few to leave the range. -/
theorem hasMore_page {s : ContentStore} {o : Content.Options} {skip : UInt32}
    (hcount : (s.ofType o.contentType).length < 2 ^ 32) :
    hasMore (s.page o skip).pagination = true ↔
      skip.toNat + o.limit.toNat < (s.ofType o.contentType).length := by
  have htotal : (s.page o skip).pagination.total.toNat = (s.ofType o.contentType).length := by
    rw [ContentStore.page, UInt64.toNat_ofNat', Nat.mod_eq_of_lt (by omega)]
  rw [hasMore_iff, Nat.mod_eq_of_lt (reach_page_lt s o skip), htotal, reach_page]

end Widget

/-! ### Showing content -/

/-- The envelope of a page. -/
def Content.Display.envelope : Content.Display → ContentPage → Envelope
  | .list => .list
  | .carousel => .carousel

namespace Block

variable {b : Block} {fallback : Bool} {o : Content.Options}

/-- A block shows content if it does not ask again and its message is content. -/
theorem shownContent?_eq_some_iff : b.shownContent? fallback = some o ↔
    (fallback && b.options.fallback.isSome) = false ∧ (∃ elements, b.message = .content elements) ∧
      b.options.content = some o := by
  rw [shownContent?]
  cases fallback && b.options.fallback.isSome with
  | true => simp
  | false => cases hmessage : b.message <;> simp

theorem content_of_shown (h : b.shownContent? fallback = some o) : b.options.content = some o :=
  (shownContent?_eq_some_iff.mp h).2.2

end Block

namespace Renderer

variable {r : Renderer} {b : Block} {fallback : Bool} {o : Content.Options}

/-- A block that does not ask again is rendered to its message. -/
theorem process_of_not_asks (h : (fallback && b.options.fallback.isSome) = false) (c : Context)
    (vars : Dict Json) (conversation : Option String) (roll : Nat) :
    r.process b c vars fallback conversation roll = r.message b c vars conversation roll := by
  unfold process
  split
  · rename_i hpolicy
    rw [hpolicy] at h
    cases h
  · rfl

/-- A block that shows content is rendered to the page at its reading position. -/
theorem process_of_shown (h : b.shownContent? fallback = some o) (c : Context) (vars : Dict Json)
    (conversation : Option String) (roll : Nat) :
    r.process b c vars fallback conversation roll =
      ((r.pages o (c.skipFor b.id)).mapError RenderError.content).map o.display.envelope := by
  obtain ⟨hasks, ⟨elements, hmessage⟩, hcontent⟩ := Block.shownContent?_eq_some_iff.mp h
  rw [process_of_not_asks hasks, message, hmessage]
  simp only [hcontent]
  cases r.pages o (c.skipFor b.id) with
  | error cause => rfl
  | ok page => cases o.display <;> rfl

end Renderer

/-! ### Browsing -/

/-- The content store as a source of pages that never fails. -/
def ContentStore.source (s : ContentStore) : PageSource := fun options skip =>
  .ok (s.page options skip)

/-- A block lists content. -/
structure Block.Lists (b : Block) (fallback : Bool) (o : Content.Options) : Prop where
  /-- The block shows this content. -/
  content : b.shownContent? fallback = some o
  /-- The content is shown as a list. -/
  display : o.display = .list
  /-- Pages are not empty. -/
  limit : 1 ≤ o.limit
  /-- There is a field for the titles. -/
  title : o.fields.title ≠ ""

/-- An event for a block, with what the page is rendered with beside the context. -/
structure Request where
  /-- The event. -/
  event : Event
  /-- The variables of the sender. -/
  vars : Dict Json
  /-- The conversation. -/
  conversation : Option String
  /-- The number drawn. -/
  roll : Nat

namespace Renderer

/-- What a widget shows for a block after a request, of which the event is in the context. -/
def Shows (r : Renderer) (b : Block) (fallback : Bool) (c : Context) (x : Request)
    (v : Widget.View) : Prop :=
  ∃ envelope, r.process b c x.vars fallback x.conversation x.roll = .ok envelope ∧
    Widget.view envelope = .ok v

/-- **How content is browsed**: each request is taken into the context and answered by a page, for
as long as the page before it has the button for the next one. -/
inductive Browses (r : Renderer) (b : Block) (fallback : Bool) :
    Context → List Request → List Widget.View → Prop
  | last {c : Context} {x : Request} {v : Widget.View}
      (hshows : r.Shows b fallback (c.fold b x.event) x v) (hend : ¬v.OffersMore) :
      Browses r b fallback c [x] [v]
  | more {c : Context} {x : Request} {v : Widget.View} {xs : List Request}
      {views : List Widget.View} (hshows : r.Shows b fallback (c.fold b x.event) x v)
      (hmore : v.OffersMore) (hrest : Browses r b fallback (c.fold b x.event) xs views) :
      Browses r b fallback c (x :: xs) (v :: views)

variable {r : Renderer} {b : Block} {fallback : Bool} {c : Context} {x : Request}
  {v : Widget.View} {xs : List Request} {views : List Widget.View}

theorem not_browses_nil : ¬r.Browses b fallback c [] views := nofun

/-- A page without the button is the last. -/
theorem browses_cons_of_last
    (hshows : ∀ v', r.Shows b fallback (c.fold b x.event) x v' ↔ v' = v) (hend : ¬v.OffersMore) :
    r.Browses b fallback c (x :: xs) views ↔ xs = [] ∧ views = [v] := by
  constructor
  · intro h
    cases h with
    | last hv =>
      obtain rfl := (hshows _).mp hv
      exact ⟨rfl, rfl⟩
    | more hv hmore =>
      obtain rfl := (hshows _).mp hv
      exact absurd hmore hend
  · rintro ⟨rfl, rfl⟩
    exact .last ((hshows v).mpr rfl) hend

/-- A page with the button is followed by others. -/
theorem browses_cons_of_more
    (hshows : ∀ v', r.Shows b fallback (c.fold b x.event) x v' ↔ v' = v) (hmore : v.OffersMore) :
    r.Browses b fallback c (x :: xs) views ↔
      ∃ views', views = v :: views' ∧ r.Browses b fallback (c.fold b x.event) xs views' := by
  constructor
  · intro h
    cases h with
    | last hv hend =>
      obtain rfl := (hshows _).mp hv
      exact absurd hmore hend
    | more hv _ hrest =>
      obtain rfl := (hshows _).mp hv
      exact ⟨_, rfl, hrest⟩
  · rintro ⟨views', rfl, hrest⟩
    exact .more ((hshows v).mpr rfl) hmore hrest

end Renderer

/-- What is shown on the page after some others: the entries that come next, and the button for more
if there are any after them. -/
structure Content.Options.IsPage (o : Content.Options) (entries : List Json) (k : Nat)
    (v : Widget.View) : Prop where
  /-- The entries that come next are shown. -/
  elements : v.elements =
    ((entries.drop (k * o.limit.toNat)).take o.limit.toNat).map (Widget.element o)
  /-- There are some. -/
  nonempty : v.elements ≠ []
  /-- There is the button if entries are left. -/
  more : v.OffersMore ↔ (k + 1) * o.limit.toNat < entries.length

/-- Some views are the pages that are left after some others. -/
structure Content.Options.ArePages (o : Content.Options) (entries : List Json) (k : Nat)
    (pages : List Widget.View) : Prop where
  /-- They are as many as the entries fill, with the others. -/
  count : k + pages.length = entries.length ⌈/⌉ o.limit.toNat
  /-- Each is the next page. -/
  page : ∀ i v, pages[i]? = some v → o.IsPage entries (k + i) v
  /-- They show the entries that are left. -/
  elements : pages.flatMap (·.elements) =
    (entries.drop (k * o.limit.toNat)).map (Widget.element o)

namespace Content.Options

variable {o : Content.Options} {entries : List Json} {k : Nat} {v : Widget.View}
  {pages : List Widget.View}

/-- There is a page after some others if there are entries for it. -/
theorem lt_ceilDiv_iff (hlimit : 0 < o.limit.toNat) :
    k < entries.length ⌈/⌉ o.limit.toNat ↔ k * o.limit.toNat < entries.length := by
  rw [← Nat.not_le, ceilDiv_le_iff_le_mul hlimit, Nat.not_le, Nat.mul_comm]

/-- The last page shows all the entries that are left. -/
theorem ArePages.single (hlimit : 0 < o.limit.toNat) (hv : o.IsPage entries k v)
    (hk : k + 1 = entries.length ⌈/⌉ o.limit.toNat) : o.ArePages entries k [v] := by
  have hlast : entries.length ≤ k * o.limit.toNat + o.limit.toNat := by
    rw [← Nat.succ_mul, ← Nat.not_lt, ← lt_ceilDiv_iff hlimit, ← hk]
    exact Nat.lt_irrefl _
  refine ⟨hk, fun i v' hi => ?_, ?_⟩
  · obtain ⟨rfl, rfl⟩ : i = 0 ∧ v = v' := by simpa [List.getElem?_singleton] using hi
    exact hv
  · have hall : (entries.drop (k * o.limit.toNat)).length ≤ o.limit.toNat := by
      rw [List.length_drop]
      omega
    rw [List.flatMap_singleton, hv.elements, List.take_of_length_le hall]

/-- A page and those that are left after it. -/
theorem ArePages.cons (hv : o.IsPage entries k v) (h : o.ArePages entries (k + 1) pages) :
    o.ArePages entries k (v :: pages) := by
  refine ⟨?_, fun i v' hi => ?_, ?_⟩
  · rw [← h.count, List.length_cons]
    omega
  · cases i with
    | zero => exact Option.some.inj hi ▸ hv
    | succ i =>
      have hpage := h.page i v' hi
      rwa [Nat.add_assoc, Nat.add_comm 1 i] at hpage
  · rw [List.flatMap_cons, h.elements, hv.elements, ← List.map_append, Nat.succ_mul,
      ← List.drop_drop, List.take_append_drop]

end Content.Options

namespace Renderer

variable {r : Renderer} {b : Block} {fallback : Bool} {o : Content.Options} {s : ContentStore}

section Pages

variable (hlists : b.Lists fallback o) (hpages : r.pages = s.source)
include hlists

theorem limit_pos : 0 < o.limit.toNat := UInt32.le_iff_toNat_le.mp hlists.limit

include hpages

/-- The list of the entries at the reading position is rendered. -/
theorem process_of_lists (c : Context) (vars : Dict Json) (conversation : Option String)
    (roll : Nat) :
    r.process b c vars fallback conversation roll = .ok (.list (s.page o (c.skipFor b.id))) := by
  rw [process_of_shown hlists.content, hpages, hlists.display]
  rfl

/-- **What a page shows** is determined by how many pages were before it. -/
theorem exists_page (hcount : (s.ofType o.contentType).length < 2 ^ 32) {k : Nat}
    (hk : k * o.limit.toNat < (s.ofType o.contentType).length) :
    ∃ v, o.IsPage (s.ofType o.contentType) k v ∧
      ∀ (c : Context) (x : Request) (v' : Widget.View),
        (c.skipFor b.id).toNat = k * o.limit.toNat → (r.Shows b fallback c x v' ↔ v' = v) := by
  have hlimit := limit_pos hlists
  have hskip : (UInt32.ofNat (k * o.limit.toNat)).toNat = k * o.limit.toNat :=
    UInt32.toNat_ofNat_of_lt (hk.trans hcount)
  have helements : (s.page o (UInt32.ofNat (k * o.limit.toNat))).elements =
      ((s.ofType o.contentType).drop (k * o.limit.toNat)).take o.limit.toNat := by
    rw [ContentStore.page, hskip]
  have hne : (s.page o (UInt32.ofNat (k * o.limit.toNat))).elements ≠ [] := by
    rw [helements, Ne, List.take_eq_nil_iff, List.drop_eq_nil_iff]
    omega
  obtain ⟨v, hview, hshown, hmore⟩ := Widget.exists_view_list hne hlists.title
  refine ⟨v, ⟨by rw [hshown, helements]; rfl, by simpa [hshown] using hne, ?_⟩, ?_⟩
  · rw [hmore, Widget.hasMore_page hcount, hskip, Nat.succ_mul]
  · intro c x v' hc
    have hpage : c.skipFor b.id = UInt32.ofNat (k * o.limit.toNat) :=
      UInt32.toNat_inj.mp (hc.trans hskip.symm)
    rw [Shows, process_of_lists hlists hpages, hpage]
    constructor
    · rintro ⟨_, ⟨⟩, hv'⟩
      exact Except.ok.inj (hv'.symm.trans hview)
    · rintro rfl
      exact ⟨_, rfl, hview⟩

/-- **The pages that are left** are browsed in one way only. -/
theorem exists_browsing (hcount : (s.ofType o.contentType).length < 2 ^ 32) (left : Nat) :
    ∀ k, k + left + 1 = (s.ofType o.contentType).length ⌈/⌉ o.limit.toNat →
      ∃ pages, o.ArePages (s.ofType o.contentType) k pages ∧
        ∀ (c : Context) (x : Request) (xs : List Request) (views : List Widget.View),
          ((c.fold b x.event).skipFor b.id).toNat = k * o.limit.toNat →
          (∀ y ∈ xs, y.event.asksForMore = true) →
          (r.Browses b fallback c (x :: xs) views ↔
            (x :: xs).length = pages.length ∧ views = pages) := by
  have hlimit := limit_pos hlists
  have hthere : ∀ k, k < (s.ofType o.contentType).length ⌈/⌉ o.limit.toNat ↔
      k * o.limit.toNat < (s.ofType o.contentType).length :=
    fun k => Content.Options.lt_ceilDiv_iff hlimit
  induction left with
  | zero =>
    intro k hk
    obtain ⟨v, hv, hshows⟩ := exists_page hlists hpages hcount ((hthere k).mp (by omega))
    have hend : ¬v.OffersMore := fun hmore => by
      have := (hthere (k + 1)).mpr (hv.more.mp hmore)
      omega
    refine ⟨[v], .single hlimit hv hk, fun c x xs views hc _ => ?_⟩
    rw [browses_cons_of_last (fun v' => hshows _ x v' hc) hend, List.length_cons,
      List.length_singleton, Nat.add_eq_right, List.length_eq_zero_iff]
  | succ left ih =>
    intro k hk
    obtain ⟨v, hv, hshows⟩ := exists_page hlists hpages hcount ((hthere k).mp (by omega))
    obtain ⟨pages, harePages, hbrowses⟩ := ih (k + 1) (by omega)
    have hrest := (hthere (k + 1)).mp (by omega)
    have hmore : v.OffersMore := hv.more.mpr hrest
    refine ⟨v :: pages, .cons hv harePages, fun c x xs views hc hasks => ?_⟩
    -- the next request moves the reading position on to the next page
    have hnext : ∀ y ∈ xs,
        (((c.fold b x.event).fold b y.event).skipFor b.id).toNat = (k + 1) * o.limit.toNat := by
      intro y hy
      have hsum : ((c.fold b x.event).skipFor b.id).toNat + o.limit.toNat =
          (k + 1) * o.limit.toNat := by
        rw [hc, Nat.succ_mul]
      rw [Context.skipFor_fold _ _ _ (Block.content_of_shown hlists.content), if_pos (hasks y hy),
        toNat_saturatingAdd (hsum ▸ hrest.trans hcount), hsum]
    rw [browses_cons_of_more (fun v' => hshows _ x v' hc) hmore]
    cases xs with
    | nil =>
      have hsome : pages.length ≠ 0 := by
        have := harePages.count
        omega
      exact ⟨fun ⟨_, _, h⟩ => absurd h not_browses_nil,
        fun ⟨h, _⟩ => absurd (Nat.succ.inj h).symm hsome⟩
    | cons y ys =>
      have hys := fun views' => hbrowses _ y ys views' (hnext y List.mem_cons_self)
        fun z hz => hasks z (List.mem_cons_of_mem y hz)
      constructor
      · rintro ⟨views', rfl, h⟩
        obtain ⟨hleft, rfl⟩ := (hys views').mp h
        exact ⟨congrArg (· + 1) hleft, rfl⟩
      · rintro ⟨hleft, rfl⟩
        exact ⟨pages, rfl, (hys pages).mpr ⟨Nat.succ.inj hleft, rfl⟩⟩

end Pages

/-- **Browsing shows every entry once.** For the entries of a type there are pages, as many as they
fill, which show them in order, each with the button for more if entries are left after it; and
whoever asks for the content, and then for more as long as there is the button, is shown these pages
and nothing else. -/
theorem browses_pages (hlists : b.Lists fallback o) (hpages : r.pages = s.source)
    (hsome : s.ofType o.contentType ≠ []) (hcount : (s.ofType o.contentType).length < 2 ^ 32) :
    ∃ pages : List Widget.View,
      pages.length = (s.ofType o.contentType).length ⌈/⌉ o.limit.toNat ∧
      (∀ k v, pages[k]? = some v → o.IsPage (s.ofType o.contentType) k v) ∧
      pages.flatMap (·.elements) = (s.ofType o.contentType).map (Widget.element o) ∧
      ∀ (c : Context) (x : Request) (xs : List Request) (views : List Widget.View),
        x.event.asksForMore = false → (∀ y ∈ xs, y.event.asksForMore = true) →
        (r.Browses b fallback c (x :: xs) views ↔
          (x :: xs).length = pages.length ∧ views = pages) := by
  have hpos : 0 < (s.ofType o.contentType).length ⌈/⌉ o.limit.toNat := by
    rw [Content.Options.lt_ceilDiv_iff (limit_pos hlists), Nat.zero_mul]
    exact List.length_pos_iff.mpr hsome
  obtain ⟨left, hleft⟩ := Nat.exists_eq_add_one.mpr hpos
  obtain ⟨pages, harePages, hbrowses⟩ := exists_browsing hlists hpages hcount left 0 (by omega)
  refine ⟨pages, ?_, fun k v hk => ?_, ?_, fun c x xs views hx hxs => ?_⟩
  · rw [← harePages.count, Nat.zero_add]
  · have hpage := harePages.page k v hk
    rwa [Nat.zero_add] at hpage
  · rw [harePages.elements, Nat.zero_mul, List.drop_zero]
  · refine hbrowses c x xs views ?_ hxs
    rw [Context.skipFor_fold _ _ _ (Block.content_of_shown hlists.content), hx, Nat.zero_mul]
    rfl

end Renderer

namespace Sample

/-- Content that is listed two entries at a time. -/
def newsOptions : Content.Options :=
  ⟨.list, "news", { Content.Fields.empty with title := "title" }, [], 2, none⟩

/-- A block that lists it. -/
def news : Block :=
  { Block.plain "news" "News" (.content true) with
    options := { BlockOptions.none with content := some newsOptions } }

/-- Three entries. -/
def archive : ContentStore :=
  ["Sun", "Rain", "Snow"].foldl
    (fun s title => s.insert "news" (.record [("title", .str title)])) .empty

/-- A message of nobody, with nothing to render it with. -/
def anonymous (body : Widget.Body) : Request :=
  ⟨⟨.web, .message ⟨body, none, none⟩, none, none⟩, .empty, none, 0⟩

end Sample

/-- Three entries fill two pages. -/
theorem Renderer.browses_pages_news :
    ∃ v v', Renderer.Browses ⟨Sample.archive.source, .empty, .empty⟩ Sample.news false .empty
        [Sample.anonymous (.text "news"), Sample.anonymous (.postback "View More" viewMore)]
        [v, v'] ∧
      Sample.newsOptions.IsPage (Sample.archive.ofType "news") 0 v ∧
      Sample.newsOptions.IsPage (Sample.archive.ofType "news") 1 v' ∧
      v.elements ++ v'.elements =
        (Sample.archive.ofType "news").map (Widget.element Sample.newsOptions) := by
  have hlists : Sample.news.Lists false Sample.newsOptions :=
    ⟨rfl, rfl, by decide, by decide⟩
  have hlength : (Sample.archive.ofType Sample.newsOptions.contentType).length = 3 := by
    decide +kernel
  obtain ⟨pages, hpages, hpage, hflat, hbrowses⟩ :=
    Renderer.browses_pages (r := ⟨Sample.archive.source, .empty, .empty⟩) hlists rfl
      (List.ne_nil_of_length_pos (by omega)) (by omega)
  rw [hlength] at hpages
  obtain ⟨v, v', rfl⟩ := List.length_eq_two.mp (hpages.trans (by decide))
  refine ⟨v, v', (hbrowses .empty _ _ _ (by decide +kernel) (fun y hy => ?_)).mpr ⟨rfl, rfl⟩,
    hpage 0 v rfl, hpage 1 v' rfl, ?_⟩
  · obtain rfl := List.mem_singleton.mp hy
    decide +kernel
  · rw [List.flatMap_cons, List.flatMap_singleton] at hflat
    exact hflat

end Chatflow
