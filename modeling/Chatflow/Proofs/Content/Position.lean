import Chatflow.Proofs.Bot.Moments
import Chatflow.Proofs.Content.Pages
import Chatflow.Proofs.Conversation.Asking

/-!
# Reading positions

A turn that goes on with a conversation takes the event into its context once, for the block that
answers or for the one that asks again (`TakenIn`), and what it stores then carries that context
(`Bot.Path.takenIn`). So the reading positions after the turn are told by `Context.fold`.

For a turn in which the conversation asks again this means that no page is sent and all positions
stay, but one: if the block that asks again shows content itself, its position moves as if the event
had triggered it. An event that asks for more moves it on by a page that is not sent, and any other
moves it back to the start (`World.positions_after_asking`).
-/

namespace Chatflow

open ConversationStore

/-! ### What a turn takes in -/

/-- A conversation answers an event with a block, or asks again at one: the move, the block, and the
conversation with its attempts counted. -/
inductive Conversation.Proceeds (c : Conversation) (bot : Bot) (e : Event) :
    Move → Block → Conversation → Prop where
  | answer {m : BlockMatch} (h : e.matchBlock? (bot.blocks.findMany c.nextIds) = some m) :
      c.Proceeds bot e .answer m.block (c.withAttempt 0)
  | again {b : Block} (h : e.matchBlock? (bot.blocks.findMany c.nextIds) = none)
      (ha : c.asksAgain = true) (hb : c.askingBlock? = some b) :
      c.Proceeds bot e .again b (c.withAttempt (c.context.attempt + 1))

/-- The conversation in hand has the id and the context of the one that was active in the world
`w₀`, after it took in the event for a block. -/
def TakenIn (bot : Bot) (e : Event) (s : Subscriber) (w₀ : World) (m : Move) (b : Block)
    (c : Conversation) : Prop :=
  ∃ c₀ c₁, w₀.conversations.active? s.id = some c₀ ∧ c₀.Proceeds bot e m b c₁ ∧ c.id = c₁.id ∧
    c.context = (c₁.taking b e).context

/-- The context of a conversation is on record. -/
def World.Carries (w : World) (c : Conversation) : Prop :=
  ∃ r, w.conversations.find? c.id = some r ∧ r.context = c.context

/-- What is on record of the conversation that was active in the world `w₀`, in which the turn
began, as long as the turn goes on with it. -/
def Keeping (bot : Bot) (e : Event) (s : Subscriber) (w₀ : World) : Stage × World → Prop
  | (.waiting, w) => w = w₀
  | (.found c, _) => w₀.conversations.active? s.id = some c
  | (.entering m b c, _) => m.starts = false →
    ∃ c₀, w₀.conversations.active? s.id = some c₀ ∧ c₀.Proceeds bot e m b c
  | (.storing m b c, _) => m.starts = false → TakenIn bot e s w₀ m b c
  | (.entered m b c, w) => m.starts = false → TakenIn bot e s w₀ m b c ∧ w.Carries c
  | (.sending m _ b c, w) | (.sent m _ b c, w) => m.starts = false →
    ∃ b₀, TakenIn bot e s w₀ m b₀ c ∧ w.Carries c ∧ (m.fallback = true → b = b₀)
  | (.standing m c, w) => m.starts = false → ∃ b₀, TakenIn bot e s w₀ m b₀ c ∧ w.Carries c
  | (.ending c _ (.done m), w) => m.starts = false →
    ∃ b₀, TakenIn bot e s w₀ m b₀ c ∧ w.Carries c
  | (.ending _ _ (.finished (.ok _)), _) => False
  | (.exit (.done m), w) => m.starts = false →
    ∃ b₀ c, TakenIn bot e s w₀ m b₀ c ∧ w.Carries c
  | (.exit (.finished (.ok .conversation)), w) =>
    ∃ m b₀ c, TakenIn bot e s w₀ m b₀ c ∧ w.Carries c
  | (.opening _ o, _) => (Move.start o).starts = true
  | _ => True

section

variable {bot : Bot} {e : Event} {s : Subscriber} {w₀ : World} {p q : Stage × World}

/-- A conversation that is written is on record. -/
theorem World.carries_update {w : World} {c c' : Conversation} {store : ConversationStore}
    (h : w.conversations.update c = .ok store) (hid : c'.id = c.id)
    (hcontext : c'.context = c.context) (w' : World) (hw : w'.conversations = store) :
    w'.Carries c' := by
  refine ⟨c, ?_, hcontext.symm⟩
  rw [hw, find?_update h, hid, if_pos rfl]

/-- Nothing is attached to a block that asks again. -/
theorem TakenIn.attachedBlock {m : Move} {b : Block} {c : Conversation}
    (h : TakenIn bot e s w₀ m b c) (hm : m.fallback = true) : b.attachedBlock = none := by
  obtain ⟨c₀, c₁, -, hproceeds, -⟩ := h
  cases hproceeds with
  | answer => cases hm
  | again _ _ hb =>
    obtain ⟨b₀, -, rfl⟩ := Option.map_eq_some_iff.mp hb
    rfl

namespace Keeping

/-- A conversation whose move failed is not gone on with. -/
theorem failed {m : Move} {err : BotError} {c : Conversation} {w : World} :
    Keeping bot e s w₀ (.failed m err c, w) := by
  cases m <;> trivial

/-- What is on record stays there if the end is only reported. -/
theorem exit {x : Exit} {c : Conversation} {error : Option String} {w w' : World}
    (hp : Keeping bot e s w₀ (.ending c error x, w))
    (hw : ∀ c', w.Carries c' → w'.Carries c') : Keeping bot e s w₀ (.exit x, w') := by
  cases x with
  | free => trivial
  | done m =>
    intro hm
    obtain ⟨b₀, htaken, hcarries⟩ := hp hm
    exact ⟨b₀, c, htaken, hw c hcarries⟩
  | finished r =>
    cases r with
    | error err => trivial
    | ok o => cases hp

/-- **Every transition keeps it.** -/
theorem step (hp : Keeping bot e s w₀ p) (h : bot.Moves e s p q) : Keeping bot e s w₀ q := by
  cases h with
  | found hc =>
    obtain rfl : _ = _ := hp
    exact hc
  | answered h => exact fun _ => ⟨_, hp, .answer h⟩
  | asked _ h ha hb => exact fun _ => ⟨_, hp, .again h ha hb⟩
  | bare | kept =>
    intro hm
    obtain ⟨c₀, hc₀, hproceeds⟩ := hp hm
    exact ⟨c₀, _, hc₀, hproceeds, rfl, rfl⟩
  | stored hstore => exact fun hm => ⟨hp hm, World.carries_update hstore rfl rfl _ rfl⟩
  | unkept | unstored | unsaid | unread | unstood => exact failed
  | entered =>
    intro hm
    obtain ⟨htaken, hcarries⟩ := hp hm
    exact ⟨_, htaken, hcarries, fun _ => rfl⟩
  | said hsends =>
    intro hm
    obtain ⟨b₀, htaken, hcarries, hb⟩ := hp hm
    refine ⟨b₀, htaken, ?_, hb⟩
    rw [World.Carries, hsends.spares.conversations]
    exact hcarries
  | @linked w m visited b next c id h =>
    intro hm
    obtain ⟨b₀, htaken, hcarries, hb⟩ := hp hm
    refine ⟨b₀, htaken, hcarries, fun hfallback => ?_⟩
    have hnone := htaken.attachedBlock hfallback
    rw [← hb hfallback, h] at hnone
    cases hnone
  | read | last | unlinked | missing | cycle =>
    intro hm
    obtain ⟨b₀, htaken, hcarries, -⟩ := hp hm
    exact ⟨b₀, htaken, hcarries⟩
  | stood hstore =>
    intro hm
    obtain ⟨b₀, htaken, -⟩ := hp hm
    exact ⟨b₀, _, htaken, World.carries_update hstore rfl rfl _ rfl⟩
  | ended hstore =>
    refine hp.exit fun c' ⟨r, hr, hcontext⟩ => ?_
    -- the end changes no context
    obtain ⟨r', hr', -⟩ := finish_eq_ok_iff.mp hstore
    have hfind := find?_finish hstore hr' c'.id
    split at hfind
    · rename_i hid
      obtain rfl : r = r' := Option.some.inj (hr.symm.trans (hid ▸ hr'))
      exact ⟨_, hfind, hcontext⟩
    · exact ⟨r, hfind.trans hr, hcontext⟩
  | unended => exact hp.exit fun _ hcarries => hcarries
  | @credited w m =>
    match m, hp with
    | .answer, hp | .again, hp =>
      obtain ⟨b₀, c, htaken, hcarries⟩ := hp rfl
      exact ⟨_, b₀, c, htaken, hcarries⟩
    | .start .conversation, hp =>
      obtain ⟨b₀, c, htaken, hcarries⟩ := hp rfl
      exact ⟨_, b₀, c, htaken, hcarries⟩
    | .start (.started _), _ | .start (.fallbackBlock _), _ | .start .fallbackMessage, _ |
      .start .unhandled, _ => trivial
  | matched | sought => exact rfl
  | opened => exact fun hm => absurd (hp.symm.trans hm) (by decide)
  | _ => trivial

end Keeping

theorem Bot.Path.keeping (h : bot.Path e s (.waiting, w₀) q) : Keeping bot e s w₀ q :=
  h.preserves (fun _ _ hmove hp => hp.step hmove) rfl

/-- **A turn that goes on with a conversation** took the event into its context, and the context is
on record. -/
theorem Bot.Path.takenIn {w : World}
    (h : bot.Path e s (.waiting, w₀) (.exit (.finished (.ok .conversation)), w)) :
    ∃ m b c, TakenIn bot e s w₀ m b c ∧ w.Carries c :=
  h.keeping

/-! ### Asking again -/

namespace Conversation

variable {c : Conversation}

/-- A conversation that asks again stands at a block with a policy. -/
theorem current_of_asksAgain (h : c.asksAgain = true) :
    ∃ b p, c.current = some b ∧ b.options.fallback = some p := by
  obtain ⟨b, p, hcurrent, hpolicy, -⟩ := policy_of_asksAgain h
  exact ⟨b, p, hcurrent, hpolicy⟩

/-- The current block as it asks again has its id and its options. -/
theorem askingBlock?_copies {b b₀ : Block} (h : c.askingBlock? = some b₀)
    (hb : c.current = some b) : b₀.id = b.id ∧ b₀.options = b.options := by
  rw [askingBlock?, hb] at h
  rw [← Option.some.inj h]
  exact ⟨rfl, rfl⟩

end Conversation

/-- What a block with a policy says when it asks again is one of its texts. -/
theorem Renderer.mem_of_process_fallback {r : Renderer} {b : Block} {p : FallbackPolicy}
    {c : Context} {vars : Dict Json} {conversation : Option String} {roll : Nat}
    {envelope : Envelope} (hpolicy : b.options.fallback = some p)
    (h : r.process b c vars true conversation roll = .ok envelope) :
    ∃ t ∈ p.messages, envelope = .text (Template.render t c vars r.contact) := by
  simp only [process, hpolicy, oneOf] at h
  split at h
  · rename_i t ht
    cases h
    exact ⟨t, List.mem_of_getElem? ht, rfl⟩
  · cases h

/-- Where no candidate answers, a conversation is gone on with by asking again. -/
theorem TakenIn.again {m : Move} {b₀ : Block} {c c' : Conversation}
    (h : TakenIn bot e s w₀ m b₀ c') (hactive : w₀.conversations.active? s.id = some c)
    (hunanswered : e.matchBlock? (bot.blocks.findMany c.nextIds) = none) :
    m = .again ∧ c.asksAgain = true ∧ c.askingBlock? = some b₀ ∧ c'.id = c.id ∧
      c'.context = (c.asking b₀ e).context := by
  obtain ⟨c₀, c₁, hc₀, hproceeds, hid, hcontext⟩ := h
  obtain rfl := Option.some.inj (hactive.symm.trans hc₀)
  cases hproceeds with
  | answer hm =>
    rw [hunanswered] at hm
    cases hm
  | again _ ha hb => exact ⟨rfl, ha, hb, hid, hcontext⟩

/-- **A turn in which a conversation asks again** says nothing but texts of the policy. -/
theorem Bot.Path.asks {w : World} {c : Conversation} {b : Block} {p : FallbackPolicy}
    (h : bot.Path e s (.waiting, w₀) (.exit (.finished (.ok .conversation)), w))
    (hactive : w₀.conversations.active? s.id = some c)
    (hunanswered : e.matchBlock? (bot.blocks.findMany c.nextIds) = none)
    (hb : c.current = some b) (hpolicy : b.options.fallback = some p) :
    ∀ x ∈ w.sentSince w₀, x.Asks bot s c p := by
  intro x hx
  obtain ⟨⟨stage, v⟩, r', hpath, hsends, hafter⟩ := h.exists_sends hx
  have hnotPast : stage.isPast = false := by
    refine Bool.eq_false_iff.mpr fun hpast => ?_
    cases hafter.isPast (hsends.move.isPast hpast)
  obtain ⟨hisOf, hrendered⟩ := hsends.isOf
  cases hisOf with
  | outside => cases hnotPast
  | inside hcontext hfallback hconversation =>
    obtain ⟨b₀, htaken, -, hblock⟩ := hpath.keeping hnotPast
    obtain ⟨rfl, -, hasking, hid, -⟩ := htaken.again hactive hunanswered
    obtain rfl : x.block = b₀ := hblock rfl
    obtain ⟨hcopyId, hcopyOptions⟩ := Conversation.askingBlock?_copies hasking hb
    have henvelope := hrendered.envelope
    rw [hfallback] at henvelope
    refine ⟨hfallback, by rw [hconversation, hid], by rw [hb, hcopyId]; rfl, ?_⟩
    exact Renderer.mem_of_process_fallback (hcopyOptions ▸ hpolicy) henvelope

end

/-! ### Turns -/

theorem Event.asksForMore_detectLanguage (e : Event) (languages : List String) :
    (e.detectLanguage languages).asksForMore = e.asksForMore := by
  rw [detectLanguage]
  split <;> rfl

namespace World

variable {bot : Bot} {event : Event} {s : Subscriber} {w w' : World} {c : Conversation}

/-- **What asking again makes of reading positions.** If no candidate answers the event and the turn
goes on with the conversation, all that is sent are texts of the policy with which the current block
asks again, and no page. The reading positions of the other blocks stay, and all of them stay if the
current block shows no content. If it does, its own position moves as it would with a page: on if
the event asks for more, and else back to the start. -/
theorem positions_after_asking (hs : event.sender = some s)
    (hactive : w.conversations.active? s.id = some c)
    (hunanswered : event.matchBlock? (bot.blocks.findMany c.nextIds) = none)
    (hrun : bot.handle event w = (.ok .conversation, w')) :
    ∃ b p c', c.current = some b ∧ b.options.fallback = some p ∧
      w'.conversations.find? c.id = some c' ∧ (∀ x ∈ w'.sentSince w, x.Asks bot s c p) ∧
      (∀ id, id ≠ b.id → c'.context.skip.find? id = c.context.skip.find? id) ∧
      (b.options.content = none → c'.context.skip = c.context.skip) ∧
      ∀ o, b.options.content = some o → c'.context.skipFor b.id =
        if event.asksForMore then saturatingAdd (c.context.skipFor b.id) o.limit else 0 := by
  obtain ⟨s', hs', hid, -, hvars⟩ :=
    Bot.sender_detectLanguage event bot.settings.languages hs
  have hpath := Bot.path_handle hs' w
  rw [hrun] at hpath
  rw [← hid] at hactive
  rw [← Event.matchBlock?_detectLanguage event bot.settings.languages] at hunanswered
  obtain ⟨m, b₀, c₁, htaken, r, hr, hcontext⟩ := hpath.takenIn
  obtain ⟨-, hasks, hasking, hc₁, htaking⟩ := htaken.again hactive hunanswered
  obtain ⟨b, p, hb, hpolicy⟩ := Conversation.current_of_asksAgain hasks
  obtain ⟨hcopyId, hcopyOptions⟩ := Conversation.askingBlock?_copies hasking hb
  -- what is on record is the context that took in the event
  have hfold : r.context = (c.withAttempt (c.context.attempt + 1)).context.fold b₀
      (event.detectLanguage bot.settings.languages) := hcontext.trans htaking
  refine ⟨b, p, r, hb, hpolicy, hc₁ ▸ hr, fun x hx => ?_, fun id hne => ?_, fun ho => ?_,
    fun o ho => ?_⟩
  · obtain ⟨hfallback, hconversation, hblock, htext⟩ :=
      hpath.asks hactive hunanswered hb hpolicy x hx
    exact ⟨hfallback, hconversation, hblock, hvars ▸ htext⟩
  · rw [hfold, Context.find?_skip_fold _ _ _ (hcopyId ▸ hne)]
    rfl
  · rw [hfold, Context.skip_fold_of_none _ _ _ (hcopyOptions ▸ ho)]
    rfl
  · rw [hfold, ← hcopyId, Context.skipFor_fold _ _ _ (hcopyOptions ▸ ho),
      Event.asksForMore_detectLanguage]
    rfl

end World

namespace Sample

/-- Ann asks for more. -/
def wantingMore : Event :=
  { saying "" with widget := .message ⟨.postback "View More" viewMore, none, none⟩ }

/-- A bot that tells the news page by page, and asks again once. -/
def newsroom : Bot :=
  { bot with
    blocks := ⟨[{ news with
      patterns := [.text "news", .payload ⟨"View More", viewMore, none⟩]
      startsConversation := true
      nextBlocks := ["news"]
      options := { news.options with fallback := some ⟨true, 1, ["Pardon?"]⟩ } }]⟩
    contents := archive }

/-- The world after Ann has seen both pages. -/
def informed : World := (worldOf newsroom ["news"]).occur (.turn newsroom wantingMore)

end Sample

namespace World

/-- Ann is asked again, and the news are back at the start. -/
theorem positions_after_asking_pardon :
    ((Bot.handle Sample.newsroom (Sample.saying "what?") Sample.informed).2.sentSince
        Sample.informed).map (·.envelope) = [.text "Pardon?"] ∧
      ∃ c', (Bot.handle Sample.newsroom (Sample.saying "what?")
          Sample.informed).2.conversations.find? "conv-1" = some c' ∧
        c'.context.skipFor "news" = 0 := by
  -- the conversation stands at the news, and no candidate answers
  have hactive : (Sample.informed.conversations.active? "sub-1").map (fun c =>
      (c.id, c.current.map fun b => (b.id, b.options.content),
        ((Sample.saying "what?").matchBlock?
          (Sample.newsroom.blocks.findMany c.nextIds)).isNone)) =
      some ("conv-1", some ("news", some Sample.newsOptions), true) := by decide +kernel
  obtain ⟨c, hc, hknown⟩ := Option.map_eq_some_iff.mp hactive
  simp only [Prod.mk.injEq] at hknown
  obtain ⟨hid, hcurrent, hunanswered⟩ := hknown
  have hrun : (Bot.handle Sample.newsroom (Sample.saying "what?") Sample.informed).1 =
      .ok .conversation := by decide +kernel
  obtain ⟨b, p, c', hb, -, hc', -, -, -, hmoves⟩ :=
    positions_after_asking (s := Sample.ann) rfl hc (Option.isNone_iff_eq_none.mp hunanswered)
      (Prod.ext hrun rfl)
  rw [hb] at hcurrent
  obtain ⟨hnews, hcontent⟩ := Prod.mk.inj (Option.some.inj hcurrent)
  refine ⟨by decide +kernel, c', hid ▸ hc', ?_⟩
  rw [← hnews]
  exact hmoves _ hcontent

/-- The reading position is lost though nothing was read: the last page shown was the second one. -/
theorem position_lost :
    (Bot.handle Sample.newsroom (Sample.saying "what?") Sample.informed).1 = .ok .conversation ∧
      (Sample.informed.conversations.active? "sub-1").map (·.context.skipFor "news") = some 2 ∧
      ((Bot.handle Sample.newsroom (Sample.saying "what?")
        Sample.informed).2.conversations.active? "sub-1").map (·.context.skipFor "news") =
          some 0 := by
  decide +kernel

end World

end Chatflow
