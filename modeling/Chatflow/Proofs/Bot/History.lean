import Chatflow.Proofs.Bot.Simulation

/-!
# Histories

A history is what happens to a world: turns, and what is done to the subscribers and the channels
between them. Each turn has a bot of its own, so the flow, the settings and the calls that fail may
change from turn to turn. What is proved of the world after every history is proved of every world
that the program can reach.
-/

namespace Chatflow

/-- Something that happens to a world. -/
inductive Occurrence where
  /-- A bot does its turn on an event. -/
  | turn (bot : Bot) (event : Event)
  /-- The subscribers and the channels become others: somebody is met, a channel is emptied. -/
  | outside (subscribers : SubscriberStore) (channels : Channel.Registry)

namespace World

/-- The world after something happens to it. -/
def occur (w : World) : Occurrence → World
  | .turn bot event => (bot.handle event w).2
  | .outside subscribers channels => { w with subscribers := subscribers, channels := channels }

/-- The world after a history, which is told oldest first. -/
def after (w : World) (history : List Occurrence) : World := history.foldl occur w

theorem after_append (w : World) (history history' : List Occurrence) :
    w.after (history ++ history') = (w.after history).after history' :=
  List.foldl_append

/-- **What every occurrence keeps, a history keeps.** -/
theorem after_preserves {I : World → Prop} (hstep : ∀ w o, I w → I (w.occur o)) {w : World}
    (history : List Occurrence) (hw : I w) : I (w.after history) := by
  induction history generalizing w with
  | nil => exact hw
  | cons o history ih => exact ih (hstep w o hw)

end World

namespace Bot

variable {bot : Bot} {event : Event} {w : World}

/-- Without a sender there is no turn. -/
theorem handle_unsent (h : event.sender = none) :
    bot.handle event w = (.error .missingSender, w) := by
  have hsender : event.requireSender w = (.error .missingSender, w) := by
    rw [Event.requireSender, h]
    rfl
  rw [handle, run_bind_error hsender]

end Bot

namespace World

/-- **What an occurrence makes of a world** is the world itself, the world changed from outside, or
the end of a turn. -/
theorem occur_induction {I : World → Prop} {w : World} (o : Occurrence) (hsame : I w)
    (houtside : ∀ subscribers channels, I (w.occur (.outside subscribers channels)))
    (hturn : ∀ {bot : Bot} {e : Event} {s : Subscriber} {r : Except BotError Outcome} {w' : World},
      bot.Path e s (.waiting, w) (.exit (.finished r), w') → I w') : I (w.occur o) := by
  cases o with
  | outside subscribers channels => exact houtside subscribers channels
  | turn bot event =>
    cases hs : event.sender with
    | none =>
      rw [occur, Bot.handle_unsent hs]
      exact hsame
    | some s =>
      obtain ⟨s', hs', -⟩ := Bot.sender_detectLanguage event bot.settings.languages hs
      exact hturn (Bot.path_handle hs' w)

/-- What was on record stays there. -/
theorem grows_occur (w : World) (o : Occurrence) : w.Grows (w.occur o) :=
  occur_induction o (.refl w) (fun _ _ => ⟨List.prefix_rfl, List.prefix_rfl, List.prefix_rfl⟩)
    fun hpath => hpath.grows

theorem grows_after (w : World) (history : List Occurrence) : w.Grows (w.after history) :=
  after_preserves (I := fun w' => w.Grows w') (fun w' o h => h.trans (w'.grows_occur o)) history
    (.refl w)

end World

/-! ### An example

A flow of two blocks, and somebody who writes to it. -/

instance decEqExcept {ε α : Type} [DecidableEq ε] [DecidableEq α] : DecidableEq (Except ε α)
  | .ok a, .ok b => decidable_of_iff (a = b) ⟨congrArg Except.ok, Except.ok.inj⟩
  | .error a, .error b => decidable_of_iff (a = b) ⟨congrArg Except.error, Except.error.inj⟩
  | .ok _, .error _ => isFalse nofun
  | .error _, .ok _ => isFalse nofun

namespace Sample

/-- Somebody. -/
def ann : Subscriber := .fresh "sub-1" "ann" "web-channel"

/-- Ann writes something. -/
def saying (text : String) : Event := ⟨.web, .message ⟨.text text, none, none⟩, some ann, none⟩

/-- The block that starts a conversation. It asks again for counts of attempts up to one. -/
def hello : Block :=
  { Block.plain "hello" "Hello" (.texts ["Hello!"]) with
    patterns := [.text "hi"]
    startsConversation := true
    nextBlocks := ["thanks"]
    options := { BlockOptions.none with fallback := some ⟨true, 1, ["Pardon?"]⟩ } }

/-- The block that may answer then, after which nothing follows. -/
def thanks : Block :=
  { Block.plain "thanks" "Thanks" (.texts ["Thanks!"]) with patterns := [.text "fine"] }

/-- A bot with these blocks, to which no call fails. -/
def bot : Bot := ⟨⟨[hello, thanks]⟩, .empty, .empty, .none, .none, fun _ => 0⟩

/-- A channel that records what is sent. -/
def channels : Channel.Registry := .withRecorder .empty "web-channel"

/-- Ann is met and writes some texts. -/
def history (texts : List String) : List Occurrence :=
  .outside (SubscriberStore.empty.insert ann) channels :: texts.map fun t => .turn bot (saying t)

/-- The world after Ann wrote some texts. -/
def world (texts : List String) : World := (World.fresh channels).after (history texts)

/-- The world after Ann wrote some texts to another bot. -/
def worldOf (bot : Bot) (texts : List String) : World :=
  (world []).after (texts.map fun t => .turn bot (saying t))

end Sample

end Chatflow
