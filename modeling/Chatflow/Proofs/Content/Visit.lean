import Chatflow.Proofs.Content.Position
import Chatflow.Proofs.Conversation.Attempts

/-!
# Fresh visits

An event that does not ask for more moves the reading position of the block that it enters back to
the start, and of no other block. A block that is attached to that one is sent from the same
context, so its page starts where the conversation left it.

This is all that can happen (`World.pages_of_visit`): of a turn on such an event, every page of
content starts with the first entry, unless its block is attached to the one that answers the event
in the active conversation (`Sent.Follows`). The invariant is `Visiting`. It says where the context
in hand comes from: it is that of the active conversation, or of a new one, with the event taken in
for the first block of the chain, and no other block of the chain has the id of the first.
-/

namespace Chatflow

open ConversationStore

/-! ### Pages -/

/-- The page in an envelope. -/
def Envelope.page? : Envelope → Option ContentPage
  | .list page | .carousel page => some page
  | .text _ | .quickReplies _ _ | .buttons _ _ | .attachment _ _ | .system _ _ => none

namespace Renderer

variable {r : Renderer} {b : Block} {fallback : Bool} {c : Context} {vars : Dict Json}
  {conversation : Option String} {roll : Nat} {envelope : Envelope} {page : ContentPage}

theorem page?_of_oneOf {texts : List String} {text : String → String}
    (h : oneOf b roll texts text = .ok envelope) : envelope.page? = none := by
  rw [oneOf] at h
  split at h
  · rw [← Except.ok.inj h]
    rfl
  · cases h

/-- Pages come from blocks that show content and from executors. -/
theorem shown_of_page (h : r.process b c vars fallback conversation roll = .ok envelope)
    (hpage : envelope.page? = some page) :
    (∃ name args, b.message = .plugin name args) ∨ ∃ o, b.shownContent? fallback = some o := by
  have hnone : envelope.page? ≠ none := by simp [hpage]
  cases hasks : fallback && b.options.fallback.isSome with
  | true =>
    obtain ⟨rfl, hpolicy⟩ := Bool.and_eq_true_iff.mp hasks
    obtain ⟨p, hp⟩ := Option.isSome_iff_exists.mp hpolicy
    simp only [process, hp] at h
    exact absurd (page?_of_oneOf h) hnone
  | false =>
    rw [process_of_not_asks hasks, message] at h
    split at h
    · exact absurd (page?_of_oneOf h) hnone
    · split at h <;> exact absurd (Except.ok.inj h ▸ rfl) hnone
    · split at h <;> exact absurd (Except.ok.inj h ▸ rfl) hnone
    · split at h
      · cases h
      · exact absurd (Except.ok.inj h ▸ rfl) hnone
    · rename_i elements hmessage
      split at h
      · cases h
      · rename_i o hcontent
        exact .inr ⟨o, Block.shownContent?_eq_some_iff.mpr ⟨hasks, ⟨elements, hmessage⟩, hcontent⟩⟩
    · rename_i name args hmessage
      exact .inl ⟨name, args, hmessage⟩

end Renderer

/-- A message is the page that shows the entries of its content after some others. -/
def Sent.ShowsFrom (x : Sent) (s : ContentStore) (o : Content.Options) (skip : UInt32) : Prop :=
  ∃ page, x.envelope = o.display.envelope page ∧ page.options = o ∧
    page.pagination.skip = skip.toUInt64 ∧
    page.elements = ((s.ofType o.contentType).drop skip.toNat).take o.limit.toNat

/-- What is rendered of a block that shows content is the page at its reading position. -/
theorem Sent.IsRendered.showsFrom {x : Sent} {bot : Bot} {e : Event} {s : Subscriber} {w : World}
    {o : Content.Options} (h : x.IsRendered bot e s w)
    (ho : x.block.shownContent? x.fallback = some o) :
    x.ShowsFrom bot.contents o (x.context.skipFor x.block.id) := by
  have henvelope := h.envelope
  rw [Renderer.process_of_shown ho, Bot.renderer] at henvelope
  dsimp only at henvelope
  cases hfault : bot.outages .getContent (w.made .getContent) with
  | some fault =>
    rw [hfault] at henvelope
    cases henvelope
  | none =>
    rw [hfault] at henvelope
    exact ⟨_, (Except.ok.inj henvelope).symm, rfl, rfl, rfl⟩

/-! ### Where a context comes from -/

/-- The conversation that takes in the event for a block: the one that was active in the world `w₀`,
in which the turn began, or one that was not yet on record there. -/
inductive Comes (bot : Bot) (e : Event) (s : Subscriber) (w₀ : World) :
    Move → Block → Conversation → Prop
  | proceeds {c₀ c : Conversation} {m : Move} {b : Block}
      (hactive : w₀.conversations.active? s.id = some c₀) (h : c₀.Proceeds bot e m b c) :
      Comes bot e s w₀ m b c
  | begins {o : Outcome} {b : Block} {c : Conversation}
      (hnew : w₀.conversations.find? c.id = none) (hcontext : c.context = .empty) :
      Comes bot e s w₀ (.start o) b c

/-- A conversation in hand has taken in the event for a block. -/
def EnteredAt (bot : Bot) (e : Event) (s : Subscriber) (w₀ : World) (m : Move) (b : Block)
    (c : Conversation) : Prop :=
  ∃ c₁, Comes bot e s w₀ m b c₁ ∧ c.id = c₁.id ∧ c.context = c₁.context.fold b e

/-- What is known of a turn that began in the world `w₀`, about the context in hand and the block
that is sent from it: it is the first of the chain, or has another id. -/
def Visiting (bot : Bot) (e : Event) (s : Subscriber) (w₀ : World) : Stage × World → Prop
  | (.waiting, w) => w = w₀
  | (.found c, _) => w₀.conversations.active? s.id = some c
  | (.entering m b c, _) => Comes bot e s w₀ m b c
  | (.storing m b c, _) | (.entered m b c, _) => EnteredAt bot e s w₀ m b c
  | (.sending m visited b c, _) | (.sent m visited b c, _) =>
    ∃ b₀, EnteredAt bot e s w₀ m b₀ c ∧ (b = b₀ ∨ b₀.id ∈ visited ∧ b.id ∉ visited)
  | _ => True

section

variable {bot : Bot} {e : Event} {s : Subscriber} {w₀ : World} {p q : Stage × World}

/-- What was on record when a turn began stays there. -/
theorem Bot.Path.find?_eq_none (h : bot.Path e s (.waiting, w₀) p)
    (hsound : w₀.conversations.Sound) {id : String} (hid : p.2.conversations.find? id = none) :
    w₀.conversations.find? id = none := by
  refine Option.eq_none_iff_forall_ne_some.mpr fun c hc => ?_
  have hkept := h.turn_preserves (I := fun q => ∃ r, q.2.conversations.find? id = some r) hsound
    ⟨c, hc⟩ fun _ hsteady hmove ⟨r, hr⟩ =>
      let ⟨r', hr', _⟩ := hmove.shift.sender_kept hsteady hr
      ⟨r', hr'⟩
  obtain ⟨r, hr⟩ := hkept.2
  rw [hid] at hr
  cases hr

/-- **Every transition keeps it**, if what was on record when the turn began still is. -/
theorem Visiting.step (hfresh : ∀ {r}, p.2.conversations.create s.id = .ok r →
    w₀.conversations.find? r.1.id = none) (hp : Visiting bot e s w₀ p)
    (h : bot.Moves e s p q) : Visiting bot e s w₀ q := by
  cases h with
  | found hc =>
    obtain rfl : _ = _ := hp
    exact hc
  | answered hm => exact .proceeds hp (.answer hm)
  | asked _ hm ha hb => exact .proceeds hp (.again hm ha hb)
  | opened hr =>
    refine .begins (hfresh hr) ?_
    rw [(create_eq_ok_iff.mp hr).2.1]
    rfl
  | bare | kept => exact ⟨_, hp, rfl, rfl⟩
  | stored | said => exact hp
  | entered => exact ⟨_, hp, .inl rfl⟩
  | @linked w m visited b next c id hb hf hv =>
    obtain ⟨b₀, hentered, hreached⟩ := hp
    refine ⟨b₀, hentered, .inr ⟨?_, by simpa using hv⟩⟩
    obtain rfl | ⟨hvisited, -⟩ := hreached
    · exact List.mem_cons_self
    · exact List.mem_cons_of_mem _ hvisited
  | _ => trivial

theorem Bot.Path.visiting (h : bot.Path e s (.waiting, w₀) p)
    (hsound : w₀.conversations.Sound) : Visiting bot e s w₀ p := by
  have hboth := h.turn_preserves (I := Visiting bot e s w₀) hsound rfl
    fun hpath hsteady hmove hq => hq.step
      (fun hr => hpath.find?_eq_none hsound (hsteady.sound.find?_created hr)) hmove
  exact hboth.2

/-- A message is sent in a conversation, for a block attached to the one that answers an event
there. -/
structure Sent.Follows (x : Sent) (bot : Bot) (e : Event) (c : Conversation) : Prop where
  /-- It is sent in the conversation. -/
  conversation : x.conversation = some c.id
  /-- A block with another id answers the event. -/
  answered : ∃ m, e.matchBlock? (bot.blocks.findMany c.nextIds) = some m ∧ x.block.id ≠ m.block.id

/-- A block that asks again shows no content. -/
theorem Conversation.Proceeds.shownContent? {c₀ c : Conversation} {b : Block}
    (h : c₀.Proceeds bot e .again b c) : b.shownContent? true = none := by
  cases h with
  | again _ hasks hb =>
    obtain ⟨b₁, p, hb₁, hpolicy⟩ := current_of_asksAgain hasks
    obtain ⟨-, hoptions⟩ := askingBlock?_copies hb hb₁
    rw [Block.shownContent?, hoptions, hpolicy]
    rfl

/-- **The reading position of a block that is sent** on an event that does not ask for more: that of
the active conversation if the block is attached to the one that answers there, and else the
start. -/
theorem Bot.Path.position {w : World} {m : Move} {visited : List String} {x : Sent}
    {c : Conversation} {o : Content.Options}
    (h : bot.Path e s (.waiting, w₀) (.sending m visited x.block c, w))
    (hsound : w₀.conversations.Sound) (hmore : e.asksForMore = false)
    (hconversation : x.conversation = some c.id)
    (ho : x.block.shownContent? m.fallback = some o) :
    (∀ c', w₀.conversations.active? s.id = some c' → x.Follows bot e c' →
        c.context.skipFor x.block.id = c'.context.skipFor x.block.id) ∧
      ((∀ c', w₀.conversations.active? s.id = some c' → ¬x.Follows bot e c') →
        c.context.skipFor x.block.id = 0) := by
  obtain ⟨b₀, ⟨c₁, hcomes, hid, hcontext⟩, hreached⟩ := h.visiting hsound
  have hfirst : x.block = b₀ → c.context.skipFor x.block.id = 0 := by
    rintro rfl
    rw [hcontext, Context.skipFor_fold _ _ _ (Block.content_of_shown ho), hmore]
    rfl
  have hother : x.block.id ≠ b₀.id →
      c.context.skipFor x.block.id = c₁.context.skipFor x.block.id := by
    intro hne
    rw [hcontext, Context.skipFor_fold_of_ne _ _ _ hne]
  have hcases : x.block = b₀ ∨ x.block.id ≠ b₀.id :=
    hreached.imp_right fun ⟨hvisited, hnot⟩ heq => hnot (heq ▸ hvisited)
  cases hcomes with
  | proceeds hactive hproceeds =>
    rename_i c₀
    cases hproceeds with
    | answer hm =>
      rename_i found
      -- only a block with another id than the one that answers is attached to it
      have hfollows : ∀ c', w₀.conversations.active? s.id = some c' → x.Follows bot e c' →
          c' = c₀ ∧ x.block.id ≠ found.block.id := by
        rintro c' hc' ⟨-, found', hfound', hne⟩
        obtain rfl := Option.some.inj (hactive.symm.trans hc')
        obtain rfl := Option.some.inj (hm.symm.trans hfound')
        exact ⟨rfl, hne⟩
      refine ⟨fun c' hc' hx => ?_, fun hx => ?_⟩
      · obtain ⟨rfl, hne⟩ := hfollows c' hc' hx
        exact hother hne
      · refine hcases.elim hfirst fun hne => absurd ?_ (hx c₀ hactive)
        exact ⟨by rw [hconversation, hid]; rfl, found, hm, hne⟩
    | again hm ha hb =>
      -- nothing is attached to a block that asks again, and it shows no content itself
      obtain ⟨b₁, ⟨c₂, c₃, hc₂, hproceeds, -⟩, -, hblock⟩ := h.keeping rfl
      obtain rfl : x.block = b₁ := hblock rfl
      have hnone : x.block.shownContent? true = none := hproceeds.shownContent?
      rw [Move.fallback, hnone] at ho
      cases ho
  | begins hnew hempty =>
    refine ⟨fun c' hc' hx => ?_, fun _ => ?_⟩
    · -- a new conversation is not the active one
      have hsame : c'.id = c₁.id :=
        hid ▸ Option.some.inj (hx.conversation.symm.trans hconversation)
      obtain ⟨hc', -⟩ := hsound.find?_of_active? hc'
      rw [hsame, hnew] at hc'
      cases hc'
    · refine hcases.elim hfirst fun hne => (hother hne).trans ?_
      rw [hempty]
      rfl

end

/-! ### Turns -/

namespace World

variable {channels : Channel.Registry} {history : List Occurrence} {bot : Bot} {event : Event}
  {s : Subscriber} {w w' : World} {r : Except BotError Outcome}

/-- **What a turn shows on an event that does not ask for more**, in every world that turns lead to
and whatever comes of the turn. Pages come from blocks that show content, and from executors, which
may answer with anything. A block that shows content shows it from the first entry on, unless it is
attached to the block that answers the event in the active conversation: then it shows the page at
which the conversation left it. -/
theorem pages_of_visit (hw : (fresh channels).after history = w) (hs : event.sender = some s)
    (hmore : event.asksForMore = false) (hrun : bot.handle event w = (r, w')) :
    ∀ x ∈ w'.sentSince w,
      (∀ page, x.envelope.page? = some page → (∃ name args, x.block.message = .plugin name args) ∨
        ∃ o, x.block.shownContent? x.fallback = some o) ∧
      ∀ o, x.block.shownContent? x.fallback = some o →
        (∀ c, w.conversations.active? s.id = some c → x.Follows bot event c →
          x.ShowsFrom bot.contents o (c.context.skipFor x.block.id)) ∧
        ((∀ c, w.conversations.active? s.id = some c → ¬x.Follows bot event c) →
          x.ShowsFrom bot.contents o 0) := by
  have hsound : w.conversations.Sound := hw ▸ sound_after channels history
  obtain ⟨s', hs', hid, -⟩ := Bot.sender_detectLanguage event bot.settings.languages hs
  have hpath := Bot.path_handle hs' w
  rw [hrun] at hpath
  have hmore' := (Event.asksForMore_detectLanguage event bot.settings.languages).trans hmore
  have hfollows : ∀ {x : Sent} {c : Conversation},
      x.Follows bot (event.detectLanguage bot.settings.languages) c ↔ x.Follows bot event c := by
    intro x c
    refine ⟨fun ⟨hc, ha⟩ => ⟨hc, ?_⟩, fun ⟨hc, ha⟩ => ⟨hc, ?_⟩⟩
    · rwa [Event.matchBlock?_detectLanguage] at ha
    · rwa [Event.matchBlock?_detectLanguage]
  intro x hx
  obtain ⟨⟨stage, v⟩, r', hbefore, hsends, -⟩ := hpath.exists_sends hx
  obtain ⟨hisOf, hrendered⟩ := hsends.isOf
  refine ⟨fun page hpage => Renderer.shown_of_page hrendered.envelope hpage, fun o ho => ?_⟩
  have hshows := hrendered.showsFrom ho
  cases hisOf with
  | outside hblock =>
    obtain ⟨-, ⟨_, hcontent⟩, -⟩ := Block.shownContent?_eq_some_iff.mp (hblock ▸ ho)
    cases hcontent
  | inside hcontext hfallback hconversation =>
    obtain ⟨hattached, hentered⟩ :=
      hbefore.position hsound hmore' hconversation (hfallback ▸ ho)
    rw [hcontext] at hshows
    rw [hid] at hattached hentered
    refine ⟨fun c hc hx => ?_, fun hx => ?_⟩
    · rwa [hattached c hc (hfollows.mpr hx)] at hshows
    · rwa [hentered fun c hc h => hx c hc (hfollows.mp h)] at hshows

end World

namespace Sample

/-- The news, which the menu may follow. -/
def headlines : Block :=
  { news with
    patterns := [.text "news", .payload ⟨"View More", viewMore, none⟩]
    startsConversation := true
    nextBlocks := ["menu"] }

/-- A menu, to which the news are attached. -/
def menu : Block :=
  { Block.plain "menu" "Menu" (.texts ["Here are the news."]) with
    patterns := [.text "menu"]
    attachedBlock := some "news" }

/-- A bot with these two blocks. -/
def kiosk : Bot := { bot with blocks := ⟨[headlines, menu]⟩, contents := archive }

/-- The world after Ann has asked for more than the first page of the news. -/
def leafing : World := (world []).occur (.turn kiosk wantingMore)

end Sample

namespace World

/-- Ann, who comes back by the menu, is shown the page that she left. -/
theorem pages_of_visit_menu :
    ∃ x ∈ (Bot.handle Sample.kiosk (Sample.saying "menu") Sample.leafing).2.sentSince
        Sample.leafing,
      x.block = Sample.headlines ∧ x.ShowsFrom Sample.archive Sample.newsOptions 2 := by
  have hactive : (Sample.leafing.conversations.active? "sub-1").map (fun c =>
      (c.id, c.context.skipFor "news",
        ((Sample.saying "menu").matchBlock? (Sample.kiosk.blocks.findMany c.nextIds)).map
          (·.block.id))) = some ("conv-1", 2, some "menu") := by decide +kernel
  obtain ⟨c, hc, hknown⟩ := Option.map_eq_some_iff.mp hactive
  simp only [Prod.mk.injEq] at hknown
  obtain ⟨hid, hskip, hanswers⟩ := hknown
  obtain ⟨m, hm, hmenu⟩ := Option.map_eq_some_iff.mp hanswers
  have hsent : ∃ x ∈ (Bot.handle Sample.kiosk (Sample.saying "menu") Sample.leafing).2.sentSince
      Sample.leafing, x.block = Sample.headlines ∧ x.conversation = some "conv-1" ∧
        x.fallback = false := by decide +kernel
  obtain ⟨x, hx, hblock, hconversation, hfallback⟩ := hsent
  have hw : (fresh Sample.channels).after
      (Sample.history [] ++ [.turn Sample.kiosk Sample.wantingMore]) = Sample.leafing := rfl
  have hmore : (Sample.saying "menu").asksForMore = false := by decide +kernel
  have hshows := pages_of_visit (s := Sample.ann) hw rfl hmore Prod.mk.eta.symm x hx
  have hfollows : x.Follows Sample.kiosk (Sample.saying "menu") c :=
    ⟨by rw [hconversation, hid], m, hm, by rw [hblock, hmenu]; decide⟩
  have hfrom := (hshows.2 Sample.newsOptions (by rw [hblock, hfallback]; rfl)).1 c hc hfollows
  rw [hblock] at hfrom
  exact ⟨x, hx, hblock, hskip ▸ hfrom⟩

/-- The first page is not shown, though the event does not ask for more. -/
theorem first_page_missed :
    (Sample.saying "menu").asksForMore = false ∧
      ((Bot.handle Sample.kiosk (Sample.saying "menu") Sample.leafing).2.sentSince
        Sample.leafing).map (fun x => x.envelope.page?.map (·.pagination.skip)) =
          [none, some 2] := by
  decide +kernel

end World

end Chatflow
