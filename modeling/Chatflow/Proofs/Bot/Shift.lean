import Chatflow.Proofs.Bot.Path
import Chatflow.Proofs.Store.Conversations

/-!
# What turns do with conversations

A turn has many stages, but only four ways to stand with the conversation of its sender (`Phase`):
it has not been looked up, it is in hand, there is none, or the turn does no more with it. Every
transition of a turn is one of a few kinds of transitions between them (`Shift`):
`Bot.Moves.shift`. What can be said about conversations in these terms is proved once for each
kind and not once for each transition.
-/

namespace Chatflow

/-! ### What is on record -/

namespace Telemetry.Event

/-- Whether a conversation is reported to begin. -/
def isOpening : Event → Bool
  | .entry .newConversations _ => true
  | _ => false

/-- The conversation that is reported to end. -/
def ended? : Event → Option Conversation
  | .conversationEnd c _ => some c
  | _ => none

end Telemetry.Event

namespace World

/-- The number of conversations that were reported to begin. -/
def opened (w : World) : Nat := w.telemetry.countP Telemetry.Event.isOpening

/-- The conversations that were reported to end, as they were then, oldest first. -/
def endings (w : World) : List Conversation := w.telemetry.filterMap Telemetry.Event.ended?

theorem opened_emitted (w : World) (es : List Telemetry.Event) :
    (w.emitted es).opened = w.opened + es.countP Telemetry.Event.isOpening :=
  List.countP_append

theorem endings_emitted (w : World) (es : List Telemetry.Event) :
    (w.emitted es).endings = w.endings ++ es.filterMap Telemetry.Event.ended? :=
  List.filterMap_append

/-- Nothing was done with conversations, though calls may have failed. -/
structure Spares (w w' : World) : Prop where
  conversations : w'.conversations = w.conversations
  opened : w'.opened = w.opened
  endings : w'.endings = w.endings
  failures : w.failures <+: w'.failures

theorem Spares.refl (w : World) : w.Spares w := ⟨rfl, rfl, rfl, List.prefix_rfl⟩

theorem Spares.trans {w₁ w₂ w₃ : World} (h : w₁.Spares w₂) (h' : w₂.Spares w₃) :
    w₁.Spares w₃ where
  conversations := h'.conversations.trans h.conversations
  opened := h'.opened.trans h.opened
  endings := h'.endings.trans h.endings
  failures := h.failures.trans h'.failures

theorem spares_of_telemetry_eq {w w' : World} (hconversations : w'.conversations = w.conversations)
    (htelemetry : w'.telemetry = w.telemetry) (hfailures : w.failures <+: w'.failures) :
    w.Spares w' where
  conversations := hconversations
  opened := by rw [opened, opened, htelemetry]
  endings := by rw [endings, endings, htelemetry]
  failures := hfailures

theorem Quiet.spares {w w' : World} (h : w.Quiet w') : w.Spares w' :=
  spares_of_telemetry_eq h.conversations h.telemetry h.failures

theorem spares_counted (w : World) (call : Call) : w.Spares (w.counted call) :=
  (w.quiet_counted call).spares

theorem spares_refused (w : World) (call : Call) : w.Spares (w.refused call) :=
  (w.quiet_refused call).spares

/-- Reports about other things than the beginnings and ends of conversations. -/
theorem spares_emitted (w : World) {es : List Telemetry.Event}
    (hopening : es.countP Telemetry.Event.isOpening = 0)
    (hended : es.filterMap Telemetry.Event.ended? = []) : w.Spares (w.emitted es) where
  conversations := rfl
  opened := by rw [opened_emitted, hopening, Nat.add_zero]
  endings := by rw [endings_emitted, hended, List.append_nil]
  failures := List.prefix_rfl

end World

/-- To send a message does nothing with conversations. -/
theorem Bot.Sends.spares {bot : Bot} {e : Event} {s : Subscriber} {b : Block} {c : Context}
    {fallback : Bool} {conversation : Option String} {w w' : World} {r : Except BotError String}
    (h : Bot.Sends bot e s b c fallback conversation w r w') : w.Spares w' := by
  have hheard : ∀ {x : Sent} {mid : String} {w₁ : World}, Bot.Heard x (Bot.reports mid s x) w w₁ →
      w.Spares w₁ := by
    intro x mid w₁ hheard
    refine ⟨hheard.conversations, ?_, ?_, hheard.failures⟩
    · rw [World.opened, hheard.telemetry, List.countP_append]
      rfl
    · rw [World.endings, hheard.telemetry, List.filterMap_append]
      exact List.append_nil _
  cases h with
  | unrendered _ hquiet => exact hquiet.spares
  | undelivered hquiet _ => exact hquiet.spares
  | unapplied _ h => exact (hheard h).trans (World.spares_refused _ _)
  | applied _ h _ =>
    obtain ⟨hconversations, hopened, hendings, hfailures⟩ := hheard h
    exact ⟨hconversations, hopened, hendings, hfailures⟩

/-! ### Phases -/

/-- How a turn stands with the conversation of its sender. -/
inductive Phase where
  /-- It was not looked up yet. -/
  | looking
  /-- It is in hand, and surely what is on record or not. -/
  | holding (c : Conversation) (synced : Bool)
  /-- There is none, and one may be started. -/
  | free
  /-- The turn does no more with it. -/
  | finished

/-- The phase after an exit. -/
def Exit.phase : Exit → Phase
  | .free => .free
  | .done _ | .finished _ => .finished

/-- The phase of a stage. -/
def Stage.phase : Stage → Phase
  | .waiting => .looking
  | .found c | .entered _ _ c | .sending _ _ _ c | .sent _ _ _ c | .ending c _ _ =>
    .holding c true
  | .entering _ _ c | .storing _ _ c | .standing _ c => .holding c false
  | .exit x => x.phase
  | .unmatched | .falling | .voicing | .opening _ _ => .free

namespace World

/-- A write failed after which a conversation in hand may differ from the one on record. -/
def WriteFailed (w : World) : Prop :=
  .updateVars ∈ w.failures ∨ .updateConversation ∈ w.failures

end World

/-- **What a transition does with conversations.** -/
inductive Shift (s : Subscriber) : Phase × World → Phase × World → Prop
  /-- They cannot be looked up. -/
  | unseen {w w' : World} (h : w.Spares w') (hfailed : w'.failures = w.failures ++ [.findActive]) :
      Shift s (.looking, w) (.finished, w')
  /-- The sender has none. -/
  | absent {w w' : World} (h : w.Spares w') (hnone : w.conversations.active? s.id = none) :
      Shift s (.looking, w) (.free, w')
  /-- The sender has one. -/
  | found {w w' : World} {c : Conversation} (h : w.Spares w')
      (hc : w.conversations.active? s.id = some c) : Shift s (.looking, w) (.holding c true, w')
  /-- It is changed in hand. It stays what is on record if it was and is not changed; and it
  is not relied on to be after a write failed. -/
  | held {w w' : World} {c c' : Conversation} {synced synced' : Bool} (h : w.Spares w')
      (hid : c'.id = c.id) (hactive : c'.active = c.active) (hsender : c'.sender = c.sender)
      (hsynced : synced' = true → synced = true ∧ c' = c ∨ w'.WriteFailed) :
      Shift s (.holding c synced, w) (.holding c' synced', w')
  /-- It is written. -/
  | written {w w' : World} {c : Conversation} {synced : Bool} {p : Phase}
      {store : ConversationStore} (hstore : w.conversations.update c = .ok store)
      (h : World.Spares { w with conversations := store } w')
      (hp : p = .holding c true ∨ p = .finished) : Shift s (.holding c synced, w) (p, w')
  /-- It is reported to end, and ended on record. -/
  | ended {w w' : World} {c : Conversation} {p : Phase} {error : Option String}
      {store : ConversationStore} (hstore : w.conversations.finish c.id = .ok store)
      (h : World.Spares { w.emitted [.conversationEnd { c with active := false } error] with
        conversations := store } w')
      (hp : p = .free ∨ p = .finished) : Shift s (.holding c true, w) (p, w')
  /-- It is reported to end, but not ended on record. -/
  | unended {w w' : World} {c : Conversation} {p : Phase} {error : Option String}
      (h : World.Spares (w.emitted [.conversationEnd { c with active := false } error]) w')
      (hfailed : w'.failures = w.failures ++ [.endConversation]) (hp : p = .free ∨ p = .finished) :
      Shift s (.holding c true, w) (p, w')
  /-- One is created. -/
  | created {w w' : World} {r : Conversation × ConversationStore}
      (hstore : w.conversations.create s.id = .ok r)
      (h : World.Spares { w.emitted [.count .newConversations] with conversations := r.2 } w') :
      Shift s (.free, w) (.holding r.1 false, w')
  /-- Nothing happens while none is in hand. -/
  | idle {w w' : World} {p p' : Phase} (h : w.Spares w') (hp : p = .free ∨ p = .finished)
      (hp' : p' = p ∨ p' = .finished) : Shift s (p, w) (p', w')

theorem Exit.phase_cases (x : Exit) : x.phase = .free ∨ x.phase = .finished := by
  cases x with
  | free => exact .inl rfl
  | done m => exact .inr rfl
  | finished r => exact .inr rfl

namespace Shift

variable {s : Subscriber} {w w' : World} {c : Conversation} {synced : Bool}

/-- The conversation in hand stays as it is. -/
theorem same (h : w.Spares w') : Shift s (.holding c synced, w) (.holding c synced, w') :=
  .held h rfl rfl rfl fun hs => .inl ⟨hs, rfl⟩

/-- A write failed, so that the conversation is to be ended. -/
theorem unwritten (h : w.Spares w') (hfailed : w'.WriteFailed) :
    Shift s (.holding c synced, w) (.holding c true, w') :=
  .held h rfl rfl rfl fun _ => .inr hfailed

end Shift

namespace Bot

variable {bot : Bot} {e : Event} {s : Subscriber} {p q : Stage × World}

private theorem spares_visits (w : World) (m : Move) (b : Block) :
    w.Spares (w.emitted (m.visits b)) := by
  cases m <;> exact w.spares_emitted rfl rfl

private theorem spares_credits (w : World) (m : Move) : w.Spares (w.emitted m.credits) := by
  cases m <;> exact w.spares_emitted rfl rfl

/-- **Every transition is of one of the kinds.** -/
theorem Moves.shift (h : bot.Moves e s p q) : Shift s (p.1.phase, p.2) (q.1.phase, q.2) := by
  cases h with
  | unfound => exact .unseen (World.spares_refused _ _) rfl
  | absent hnone => exact .absent (World.spares_counted _ _) hnone
  | found hc => exact .found (World.spares_counted _ _) hc
  | unloaded => exact .same (World.spares_refused _ _)
  | answered | asked | kept =>
    exact .held (World.spares_of_telemetry_eq rfl rfl List.prefix_rfl) rfl rfl rfl fun hs =>
      nomatch hs
  | unanswered => exact .same (World.spares_counted _ _)
  | bare => exact .held (World.Spares.refl _) rfl rfl rfl fun hs => nomatch hs
  | unkept =>
    exact .unwritten (World.spares_refused _ _) (.inl (List.mem_append_right _ List.mem_cons_self))
  | stored hstore => exact .written hstore (World.spares_counted _ .updateConversation) (.inl rfl)
  | unstored | unstood =>
    exact .unwritten (World.spares_refused _ _) (.inr (List.mem_append_right _ List.mem_cons_self))
  | entered => exact .same (spares_visits _ _ _)
  | said hsends | unsaid hsends => exact .same hsends.spares
  | last => exact .same (World.Spares.refl _)
  | read => exact .held (World.spares_counted _ _) rfl rfl rfl fun hs => nomatch hs
  | unread | unlinked => exact .same (World.spares_refused _ _)
  | missing | cycle | linked => exact .same (World.spares_counted _ _)
  | stood hstore => exact .written hstore (World.spares_counted _ .updateConversation) (.inr rfl)
  | ended hstore =>
    exact .ended hstore (World.spares_counted _ .endConversation) (Exit.phase_cases _)
  | unended => exact .unended (World.spares_refused _ _) rfl (Exit.phase_cases _)
  | credited => exact .idle (spares_credits _ _) (.inr rfl) (.inr rfl)
  | unlisted => exact .idle (World.spares_refused _ _) (.inl rfl) (.inr rfl)
  | matched | unmatched => exact .idle (World.spares_counted _ _) (.inl rfl) (.inl rfl)
  | @opened w b o r hstore =>
    refine .created hstore ⟨rfl, ?_, ?_, List.prefix_rfl⟩
    · simp [World.opened, World.emitted, World.counted, Telemetry.Event.isOpening,
        Telemetry.Event.count]
    · simp only [World.endings, World.emitted, World.counted, List.filterMap_append]
      exact List.append_assoc _ _ _
  | unopened =>
    exact .idle ((World.spares_emitted _ rfl rfl).trans (World.spares_refused _ _)) (.inl rfl)
      (.inr rfl)
  | silent | mute => exact .idle (World.Spares.refl _) (.inl rfl) (.inr rfl)
  | fallen => exact .idle (World.spares_emitted _ rfl rfl) (.inl rfl) (.inl rfl)
  | unsought => exact .idle (World.spares_refused _ _) (.inl rfl) (.inr rfl)
  | sought | lost => exact .idle (World.spares_counted _ _) (.inl rfl) (.inl rfl)
  | plain => exact .idle (World.Spares.refl _) (.inl rfl) (.inl rfl)
  | voiced _ hsends | unvoiced hsends => exact .idle hsends.spares (.inl rfl) (.inr rfl)

end Bot

end Chatflow
