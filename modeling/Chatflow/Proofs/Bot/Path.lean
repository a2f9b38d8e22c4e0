import Chatflow.Bot.Turn
import Chatflow.Proofs.Bot.Calls
import Mathlib.Logic.Relation

/-!
# Turns as paths

A turn goes from stage to stage (`Stage`), and each transition (`Bot.Moves`) is one call, or one
decision between two calls, with all that it does to the world. A turn is a path of transitions
from `Stage.waiting` to an exit, so what every transition keeps, a turn keeps
(`Bot.Path.preserves`).

The stages hold what a turn has in hand: the conversation as it is in memory, which may differ
from what is stored, the block to send, and what becomes of the turn once the conversation is off
its hands (`Exit`).
-/

namespace Chatflow

/-- What moves a conversation on. -/
inductive Move where
  /-- A next block answers the event. -/
  | answer
  /-- The current block asks again. -/
  | again
  /-- The conversation starts, and the turn has this outcome. -/
  | start (outcome : Outcome)

namespace Move

/-- Whether the current block asks again. -/
def fallback : Move → Bool
  | .again => true
  | .answer | .start _ => false

/-- What is kept with the subscriber when a block is entered. -/
def kept (m : Move) (b : Block) (e : Event) : Dict Json :=
  if m.fallback then .empty else b.permanentCaptures e

/-- What is reported once a block is entered; at a start it was reported before. -/
def visits (m : Move) (b : Block) : List Telemetry.Event :=
  match m with
  | .start _ => []
  | .answer | .again => [.entry .popular b.name]

/-- What is reported when the move is done. -/
def credits : Move → List Telemetry.Event
  | .start _ => []
  | .answer | .again => [.count .existingConversations]

/-- The outcome of the turn when the move is done. -/
def outcome : Move → Outcome
  | .start o => o
  | .answer | .again => .conversation

end Move

/-- Where a turn stands once it has no conversation in hand. -/
inductive Exit where
  /-- No conversation is active, so one may be started. -/
  | free
  /-- A conversation was moved on, or ended on the way. -/
  | done (m : Move)
  /-- The turn is over. -/
  | finished (r : Except BotError Outcome)

/-- Where a turn goes on when a move fails. -/
def Move.exitOn (m : Move) (err : BotError) : Exit :=
  match m with
  | .start _ => .finished (.error err)
  | .answer | .again => .free

/-- Where a turn stands between two calls, with what it has in hand. -/
inductive Stage where
  /-- Nothing was looked up yet. -/
  | waiting
  /-- The active conversation was found. -/
  | found (c : Conversation)
  /-- The event is to be taken into the conversation, for a block. -/
  | entering (m : Move) (b : Block) (c : Conversation)
  /-- The context is to be stored. -/
  | storing (m : Move) (b : Block) (c : Conversation)
  /-- The context is stored. -/
  | entered (m : Move) (b : Block) (c : Conversation)
  /-- The message of a block is to be sent, after those of other blocks. -/
  | sending (m : Move) (visited : List String) (b : Block) (c : Conversation)
  /-- The message of a block was sent. -/
  | sent (m : Move) (visited : List String) (b : Block) (c : Conversation)
  /-- The place of the conversation is to be stored. -/
  | standing (m : Move) (c : Conversation)
  /-- The conversation is to be ended. -/
  | ending (c : Conversation) (error : Option String) (x : Exit)
  /-- No conversation is in hand. -/
  | exit (x : Exit)
  /-- No block starts a conversation. -/
  | unmatched
  /-- The bot falls back on what its settings say. -/
  | falling
  /-- The bot falls back on a text. -/
  | voicing
  /-- A conversation is to be started at a block. -/
  | opening (b : Block) (o : Outcome)

namespace Stage

/-- A move failed: its conversation is to be ended. -/
def failed (m : Move) (err : BotError) (c : Conversation) : Stage :=
  .ending c (some err.message) (m.exitOn err)

end Stage

/-- The conversation with an event taken into its context, for a block. -/
def Conversation.taking (c : Conversation) (b : Block) (e : Event) : Conversation :=
  { c with context := c.context.fold b e }

namespace Bot

/-- **One transition of a turn** on an event, sent by a subscriber. -/
inductive Moves (bot : Bot) (e : Event) (s : Subscriber) : Stage × World → Stage × World → Prop
  -- the active conversation of the sender
  | unfound {w : World} (err : BotError) :
      Moves bot e s (.waiting, w) (.exit (.finished (.error err)), w.refused .findActive)
  | absent {w : World} (h : w.conversations.active? s.id = none) :
      Moves bot e s (.waiting, w) (.exit .free, w.counted .findActive)
  | found {w : World} {c : Conversation} (h : w.conversations.active? s.id = some c) :
      Moves bot e s (.waiting, w) (.found c, w.counted .findActive)
  -- what answers the event in it
  | unloaded {w : World} {c : Conversation} (err : BotError) :
      Moves bot e s (.found c, w)
        (.ending c (some err.message) (.finished (.error err)), w.refused .findBlocks)
  | answered {w : World} {c : Conversation} {m : BlockMatch}
      (h : e.matchBlock? (bot.blocks.findMany c.nextIds) = some m) :
      Moves bot e s (.found c, w)
        (.entering .answer m.block (c.withAttempt 0), w.counted .findBlocks)
  | asked {w : World} {c : Conversation} {b : Block} (overflowed : Bool)
      (h : e.matchBlock? (bot.blocks.findMany c.nextIds) = none) (ha : c.asksAgain = true)
      (hb : c.askingBlock? = some b) :
      Moves bot e s (.found c, w)
        (.entering .again b (c.withAttempt (c.context.attempt + 1)),
          { w.counted .findBlocks with overflowed := overflowed })
  | unanswered {w : World} {c : Conversation}
      (h : e.matchBlock? (bot.blocks.findMany c.nextIds) = none) (ha : c.asksAgain = false) :
      Moves bot e s (.found c, w) (.ending c none .free, w.counted .findBlocks)
  -- entering a block
  | bare {w : World} {m : Move} {b : Block} {c : Conversation}
      (h : (m.kept b e).isEmpty = true) :
      Moves bot e s (.entering m b c, w) (.storing m b (c.taking b e), w)
  | kept {w : World} {m : Move} {b : Block} {c : Conversation} {r : Subscriber × SubscriberStore}
      (h : (m.kept b e).isEmpty = false)
      (hr : w.subscribers.updateVars s.id (m.kept b e) = .ok r) :
      Moves bot e s (.entering m b c, w)
        (.storing m b (c.taking b e), { w.counted .updateVars with subscribers := r.2 })
  | unkept {w : World} {m : Move} {b : Block} {c : Conversation} (err : BotError)
      (h : (m.kept b e).isEmpty = false) :
      Moves bot e s (.entering m b c, w) (.failed m err c, w.refused .updateVars)
  | stored {w : World} {m : Move} {b : Block} {c : Conversation} {store : ConversationStore}
      (h : w.conversations.update c = .ok store) :
      Moves bot e s (.storing m b c, w)
        (.entered m b c, { w.counted .updateConversation with conversations := store })
  | unstored {w : World} {m : Move} {b : Block} {c : Conversation} (err : BotError) :
      Moves bot e s (.storing m b c, w) (.failed m err c, w.refused .updateConversation)
  | entered {w : World} {m : Move} {b : Block} {c : Conversation} :
      Moves bot e s (.entered m b c, w) (.sending m [] b c, w.emitted (m.visits b))
  -- sending its message
  | said {w : World} {m : Move} {visited : List String} {b : Block} {c : Conversation}
      {mid : String} {w' : World}
      (h : Sends bot e s b c.context m.fallback (some c.id) w (.ok mid) w') :
      Moves bot e s (.sending m visited b c, w) (.sent m visited b c, w')
  | unsaid {w : World} {m : Move} {visited : List String} {b : Block} {c : Conversation}
      {err : BotError} {w' : World}
      (h : Sends bot e s b c.context m.fallback (some c.id) w (.error err) w') :
      Moves bot e s (.sending m visited b c, w) (.failed m err c, w')
  -- what follows the block
  | last {w : World} {m : Move} {visited : List String} {b : Block} {c : Conversation}
      (h : b.attachedBlock = none) (hn : b.nextBlocks = []) :
      Moves bot e s (.sent m visited b c, w) (.ending c none (.done m), w)
  | read {w : World} {m : Move} {visited : List String} {b : Block} {c : Conversation}
      (h : b.attachedBlock = none) (hn : b.nextBlocks ≠ []) :
      Moves bot e s (.sent m visited b c, w)
        (.standing m { c with current := some b, next := bot.blocks.findMany b.nextBlocks },
          w.counted .findBlocks)
  | unread {w : World} {m : Move} {visited : List String} {b : Block} {c : Conversation}
      (err : BotError) (h : b.attachedBlock = none) (hn : b.nextBlocks ≠ []) :
      Moves bot e s (.sent m visited b c, w) (.failed m err c, w.refused .findBlocks)
  | unlinked {w : World} {m : Move} {visited : List String} {b : Block} {c : Conversation}
      {id : String} (error : String) (h : b.attachedBlock = some id) :
      Moves bot e s (.sent m visited b c, w)
        (.ending c (some error) (.done m), w.refused .findBlock)
  | missing {w : World} {m : Move} {visited : List String} {b : Block} {c : Conversation}
      {id : String} (h : b.attachedBlock = some id) (hf : bot.blocks.find? id = none) :
      Moves bot e s (.sent m visited b c, w)
        (.ending c (some ("attached block '" ++ id ++ "' not found")) (.done m),
          w.counted .findBlock)
  | cycle {w : World} {m : Move} {visited : List String} {b next : Block} {c : Conversation}
      {id : String} (h : b.attachedBlock = some id) (hf : bot.blocks.find? id = some next)
      (hv : (b.id :: visited).contains next.id = true) :
      Moves bot e s (.sent m visited b c, w)
        (.ending c (some (BotError.attachedCycle next.id).message) (.done m),
          w.counted .findBlock)
  | linked {w : World} {m : Move} {visited : List String} {b next : Block} {c : Conversation}
      {id : String} (h : b.attachedBlock = some id) (hf : bot.blocks.find? id = some next)
      (hv : (b.id :: visited).contains next.id = false) :
      Moves bot e s (.sent m visited b c, w)
        (.sending m (b.id :: visited) next c, w.counted .findBlock)
  | stood {w : World} {m : Move} {c : Conversation} {store : ConversationStore}
      (h : w.conversations.update c = .ok store) :
      Moves bot e s (.standing m c, w)
        (.exit (.done m), { w.counted .updateConversation with conversations := store })
  | unstood {w : World} {m : Move} {c : Conversation} (err : BotError) :
      Moves bot e s (.standing m c, w) (.failed m err c, w.refused .updateConversation)
  -- the end of a conversation
  | ended {w : World} {c : Conversation} {error : Option String} {x : Exit}
      {store : ConversationStore} (h : w.conversations.finish c.id = .ok store) :
      Moves bot e s (.ending c error x, w)
        (.exit x, { (w.emitted [.conversationEnd { c with active := false } error]).counted
          .endConversation with conversations := store })
  | unended {w : World} {c : Conversation} {error : Option String} {x : Exit} :
      Moves bot e s (.ending c error x, w)
        (.exit x, (w.emitted [.conversationEnd { c with active := false } error]).refused
          .endConversation)
  | credited {w : World} {m : Move} :
      Moves bot e s (.exit (.done m), w) (.exit (.finished (.ok m.outcome)), w.emitted m.credits)
  -- starting a conversation
  | unlisted {w : World} (err : BotError) :
      Moves bot e s (.exit .free, w) (.exit (.finished (.error err)), w.refused .findStarting)
  | matched {w : World} {m : BlockMatch} (h : e.matchBlock? bot.blocks.starting = some m) :
      Moves bot e s (.exit .free, w)
        (.opening m.block (.started m.block.name), w.counted .findStarting)
  | unmatched {w : World} (h : e.matchBlock? bot.blocks.starting = none) :
      Moves bot e s (.exit .free, w) (.unmatched, w.counted .findStarting)
  | opened {w : World} {b : Block} {o : Outcome} {r : Conversation × ConversationStore}
      (h : w.conversations.create s.id = .ok r) :
      Moves bot e s (.opening b o, w)
        (.entering (.start o) b r.1,
          ({ (w.emitted [.entry .popular b.name]).counted .createConversation with
            conversations := r.2 }).emitted [.count .newConversations])
  | unopened {w : World} {b : Block} {o : Outcome} (err : BotError) :
      Moves bot e s (.opening b o, w)
        (.exit (.finished (.error err)),
          (w.emitted [.entry .popular b.name]).refused .createConversation)
  -- falling back
  | silent {w : World} (h : bot.settings.globalFallback = false) :
      Moves bot e s (.unmatched, w) (.exit (.finished (.ok .unhandled)), w)
  | fallen {w : World} (h : bot.settings.globalFallback = true) :
      Moves bot e s (.unmatched, w) (.falling, w.emitted [.globalFallback s.id])
  | unsought {w : World} (err : BotError) :
      Moves bot e s (.falling, w) (.exit (.finished (.error err)), w.refused .findBlock)
  | sought {w : World} {id : String} {b : Block} (h : bot.settings.fallbackBlock = some id)
      (hf : bot.blocks.find? id = some b) :
      Moves bot e s (.falling, w) (.opening b (.fallbackBlock b.name), w.counted .findBlock)
  | lost {w : World} {id : String} (h : bot.settings.fallbackBlock = some id)
      (hf : bot.blocks.find? id = none) :
      Moves bot e s (.falling, w) (.voicing, w.counted .findBlock)
  | plain {w : World} (h : bot.settings.fallbackBlock = none) :
      Moves bot e s (.falling, w) (.voicing, w)
  | mute {w : World} (h : bot.settings.fallbackMessages = []) :
      Moves bot e s (.voicing, w) (.exit (.finished (.ok .unhandled)), w)
  | voiced {w : World} {mid : String} {w' : World} (hm : bot.settings.fallbackMessages ≠ [])
      (h : Sends bot e s bot.fallbackMessageBlock .empty false none w (.ok mid) w') :
      Moves bot e s (.voicing, w) (.exit (.finished (.ok .fallbackMessage)), w')
  | unvoiced {w : World} {err : BotError} {w' : World}
      (h : Sends bot e s bot.fallbackMessageBlock .empty false none w (.error err) w') :
      Moves bot e s (.voicing, w) (.exit (.finished (.error err)), w')

/-- A path of transitions. -/
def Path (bot : Bot) (e : Event) (s : Subscriber) : Stage × World → Stage × World → Prop :=
  Relation.ReflTransGen (bot.Moves e s)

namespace Path

variable {bot : Bot} {e : Event} {s : Subscriber} {p q r : Stage × World}

theorem refl (p : Stage × World) : bot.Path e s p p := Relation.ReflTransGen.refl

theorem single (h : bot.Moves e s p q) : bot.Path e s p q := Relation.ReflTransGen.single h

theorem trans (h : bot.Path e s p q) (h' : bot.Path e s q r) : bot.Path e s p r :=
  Relation.ReflTransGen.trans h h'

theorem head (h : bot.Moves e s p q) (h' : bot.Path e s q r) : bot.Path e s p r :=
  Relation.ReflTransGen.head h h'

/-- **What every transition keeps, a path keeps.** -/
theorem preserves {I : Stage × World → Prop} (hstep : ∀ p q, bot.Moves e s p q → I p → I q)
    (h : bot.Path e s p q) (hp : I p) : I q := by
  induction h with
  | refl => exact hp
  | tail _ hmove ih => exact hstep _ _ hmove ih

end Path

end Bot

/-! ### What is on record -/

namespace World

/-- What was on record stays there. -/
structure Grows (w w' : World) : Prop where
  telemetry : w.telemetry <+: w'.telemetry
  journal : w.journal <+: w'.journal
  failures : w.failures <+: w'.failures

theorem Grows.refl (w : World) : w.Grows w := ⟨List.prefix_rfl, List.prefix_rfl, List.prefix_rfl⟩

theorem Grows.trans {w₁ w₂ w₃ : World} (h : w₁.Grows w₂) (h' : w₂.Grows w₃) : w₁.Grows w₃ where
  telemetry := h.telemetry.trans h'.telemetry
  journal := h.journal.trans h'.journal
  failures := h.failures.trans h'.failures

/-- If no call failed in between, the failures are the same. -/
theorem Grows.failures_eq {w w' : World} (h : w.Grows w') (hn : ∀ call, call ∉ w'.failedSince w) :
    w'.failures = w.failures := by
  have hlength : w'.failures.length ≤ w.failures.length :=
    List.drop_eq_nil_iff.mp (List.eq_nil_iff_forall_not_mem.mpr hn)
  exact (h.failures.eq_of_length_le hlength).symm

theorem Quiet.grows {w w' : World} (h : w.Quiet w') : w.Grows w' where
  telemetry := h.telemetry ▸ List.prefix_rfl
  journal := h.journal ▸ List.prefix_rfl
  failures := h.failures

theorem grows_refused (w : World) (call : Call) : w.Grows (w.refused call) :=
  (w.quiet_refused call).grows

theorem grows_counted (w : World) (call : Call) : w.Grows (w.counted call) :=
  (w.quiet_counted call).grows

theorem grows_emitted (w : World) (es : List Telemetry.Event) : w.Grows (w.emitted es) :=
  ⟨List.prefix_append _ _, List.prefix_rfl, List.prefix_rfl⟩

end World

namespace Bot

variable {bot : Bot} {e : Event} {s : Subscriber} {p q : Stage × World}

theorem Heard.grows {x : Sent} {es : List Telemetry.Event} {w w' : World} (h : Heard x es w w') :
    w.Grows w' where
  telemetry := h.telemetry ▸ List.prefix_append _ _
  journal := h.journal ▸ List.prefix_append _ _
  failures := h.failures

theorem Sends.grows {b : Block} {c : Context} {fallback : Bool} {conversation : Option String}
    {w w' : World} {r : Except BotError String}
    (h : Sends bot e s b c fallback conversation w r w') : w.Grows w' := by
  cases h with
  | unrendered _ hquiet => exact hquiet.grows
  | undelivered hquiet _ => exact hquiet.grows
  | unapplied _ hheard => exact hheard.grows.trans (World.grows_refused _ _)
  | applied _ hheard _ =>
    obtain ⟨htelemetry, hjournal, hfailures⟩ := hheard.grows
    exact ⟨htelemetry, hjournal, hfailures⟩

theorem Moves.grows (h : bot.Moves e s p q) : p.2.Grows q.2 := by
  cases h with
  | unfound | unloaded | unkept | unstored | unread | unlinked | unstood | unlisted | unsought =>
    exact World.grows_refused _ _
  | absent | found | answered | unanswered | read | missing | cycle | linked | matched |
      unmatched | sought | lost => exact World.grows_counted _ _
  | asked | kept | stored | stood => exact ⟨List.prefix_rfl, List.prefix_rfl, List.prefix_rfl⟩
  | bare | last | silent | plain | mute => exact World.Grows.refl _
  | entered | credited | fallen => exact World.grows_emitted _ _
  | said hsends | unsaid hsends | voiced _ hsends | unvoiced hsends => exact hsends.grows
  | ended => exact ⟨List.prefix_append _ _, List.prefix_rfl, List.prefix_rfl⟩
  | unended => exact (World.grows_emitted _ _).trans (World.grows_refused _ _)
  | opened =>
    exact ⟨(List.prefix_append _ _).trans (List.prefix_append _ _), List.prefix_rfl,
      List.prefix_rfl⟩
  | unopened => exact (World.grows_emitted _ _).trans (World.grows_refused _ _)

/-- A sending sends one message at most, which is of the conversation it is for. -/
theorem Sends.sent_cases {b : Block} {c : Context} {fallback : Bool} {conversation : Option String}
    {w w' : World} {r : Except BotError String}
    (h : Sends bot e s b c fallback conversation w r w') : w'.journal = w.journal ∨
      ∃ x, w'.journal = w.journal ++ [x] ∧ x.conversation = conversation ∧
        x.fallback = fallback := by
  cases h with
  | unrendered _ hquiet => exact .inl hquiet.journal
  | undelivered hquiet _ => exact .inl hquiet.journal
  | unapplied _ hheard => exact .inr ⟨_, hheard.journal, rfl, rfl⟩
  | applied _ hheard _ => exact .inr ⟨_, hheard.journal, rfl, rfl⟩

/-- What a transition sends is the message of a block within a conversation, or a fallback text
outside of any. -/
theorem Moves.sent_cases (h : bot.Moves e s p q) : q.2.journal = p.2.journal ∨
    ∃ x, q.2.journal = p.2.journal ++ [x] ∧
      ((x.conversation = none ∧ x.fallback = false) ∨
        ∃ m visited b c, p.1 = .sending m visited b c ∧ x.conversation = some c.id ∧
          x.fallback = m.fallback) := by
  cases h with
  | said hsends | unsaid hsends =>
    refine hsends.sent_cases.imp_right ?_
    rintro ⟨x, hx, hconversation, hfallback⟩
    exact ⟨x, hx, .inr ⟨_, _, _, _, rfl, hconversation, hfallback⟩⟩
  | voiced _ hsends | unvoiced hsends =>
    refine hsends.sent_cases.imp_right ?_
    rintro ⟨x, hx, hconversation, hfallback⟩
    exact ⟨x, hx, .inl ⟨hconversation, hfallback⟩⟩
  | _ => exact .inl rfl

theorem Path.grows (h : bot.Path e s p q) : p.2.Grows q.2 :=
  h.preserves (I := fun r => p.2.Grows r.2) (fun _ _ hmove hp => hp.trans hmove.grows)
    (World.Grows.refl _)

/-- What every transition keeps, as long as what was on record stays there, a path keeps. -/
theorem Path.preserves_grown {I : Stage × World → Prop}
    (hstep : ∀ r r', p.2.Grows r.2 → bot.Moves e s r r' → I r → I r') (h : bot.Path e s p q)
    (hp : I p) : I q := by
  have hboth : p.2.Grows q.2 ∧ I q := by
    refine h.preserves (I := fun r => p.2.Grows r.2 ∧ I r) ?_ ⟨.refl _, hp⟩
    rintro r r' hmove ⟨hgrows, hr⟩
    exact ⟨hgrows.trans hmove.grows, hstep r r' hgrows hmove hr⟩
  exact hboth.2

end Bot

end Chatflow
