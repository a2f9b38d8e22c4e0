import Chatflow.Config.Validation
import Chatflow.Proofs.Conversation.Handled

/-!
# Bots that always answer

A configuration that was found valid and lets the bot fall back names a block or has a text to fall
back on (`Settings.validate_eq_ok_iff`). If it names a block and the bot has that block, or it names
none, the bot is provided (`Bot.Provided`).

No turn of a provided bot is unhandled. There are two ways to that outcome, both from where no block
answers: that the bot is not to fall back, and that it has no text when it comes to the texts. The
first is shut by the settings. To the texts a bot comes only if there is no block to fall back on,
so then it has some (`Stage.Answers`). All other outcomes are in view from the moment on at which
what leads to them was begun (`Stage.outcome?`), and come after a message.
-/

namespace Chatflow

/-! ### Valid configurations -/

theorem Settings.fallbackMessages_ne_nil {s : Settings} (h : s.hasMessage = true) :
    s.fallbackMessages ≠ [] := by
  intro hnil
  rw [hasMessage, hnil] at h
  cases h

/-- Settings are valid if they name a language, and a block or a text if the bot is to fall back;
the name of the block is not empty. -/
theorem Settings.validate_eq_ok_iff {s : Settings} : s.validate = .ok () ↔
    s.languages ≠ [] ∧ s.fallbackBlock ≠ some "" ∧
      (s.globalFallback = true → s.fallbackBlock = .none → s.hasMessage = true) := by
  rw [validate]
  split
  · rename_i hlanguages
    exact iff_of_false nofun fun h => h.1 (List.isEmpty_iff.mp hlanguages)
  rename_i hlanguages
  split
  · rename_i hblock
    exact iff_of_false nofun fun h => h.2.1 hblock
  rename_i hblock
  split
  · rename_i hmute
    simp only [Bool.and_eq_true, Option.isNone_iff_eq_none, Bool.not_eq_true'] at hmute
    refine iff_of_false nofun fun h => ?_
    exact Bool.eq_false_iff.mp hmute.2 (h.2.2 hmute.1.1 hmute.1.2)
  · rename_i hspeaks
    refine iff_of_true rfl ⟨fun h => hlanguages (List.isEmpty_iff.mpr h), hblock, ?_⟩
    intro hfallback hnone
    simpa [hfallback, hnone] using hspeaks

/-- A configuration is valid if its sections are. -/
theorem Config.validate_eq_ok_iff {c : Config} : c.validate = .ok () ↔
    c.logging.validate = .ok () ∧ c.chatbot.validate = .ok () ∧ c.nlu.validate = .ok () := by
  rw [validate]
  cases c.logging.validate with
  | error err => exact iff_of_false nofun fun h => nomatch h.1
  | ok _ =>
    cases c.chatbot.validate with
    | error err => exact iff_of_false nofun fun h => nomatch h.2.1
    | ok _ => exact ⟨fun h => ⟨rfl, rfl, h⟩, fun h => h.2.2⟩

/-! ### Provided bots -/

/-- A bot has something to answer with when no block does. -/
structure Bot.Provided (bot : Bot) : Prop where
  /-- It is to fall back. -/
  enabled : bot.settings.globalFallback = true
  /-- There is a block to fall back on, or a text. -/
  answer : (∃ id b, bot.settings.fallbackBlock = some id ∧ bot.blocks.find? id = some b) ∨
    bot.settings.fallbackMessages ≠ []

/-- **Valid settings provide a bot** that has the block that they name. -/
theorem Settings.provides {bot : Bot} (hvalid : bot.settings.validate = .ok ())
    (hfallback : bot.settings.globalFallback = true)
    (hblock : ∀ id, bot.settings.fallbackBlock = some id → ∃ b, bot.blocks.find? id = some b) :
    bot.Provided := by
  refine ⟨hfallback, ?_⟩
  obtain ⟨-, -, hspeaks⟩ := validate_eq_ok_iff.mp hvalid
  cases hid : bot.settings.fallbackBlock with
  | none => exact .inr (fallbackMessages_ne_nil (hspeaks hfallback hid))
  | some id =>
    obtain ⟨b, hb⟩ := hblock id hid
    exact .inl ⟨id, b, rfl, hb⟩

/-! ### The outcome in view -/

/-- The outcome to which a stage leads, if no call fails on the way. It is not settled where the
active conversation may still turn out not to answer. -/
def Stage.outcome? : Stage → Option Outcome
  | .entering m _ _ | .storing m _ _ | .entered m _ _ | .sending m _ _ _ | .sent m _ _ _
  | .standing m _ => some m.outcome
  | .ending _ _ x | .exit x => x.outcome?
  | .opening _ o => some o
  | .waiting | .found _ | .unmatched | .falling | .voicing => none

/-- A stage does not lead to the unhandled outcome, and a bot that comes to its texts has some. -/
structure Stage.Answers (bot : Bot) (stage : Stage) : Prop where
  /-- The unhandled outcome is not in view. -/
  outcome : stage.outcome? ≠ some .unhandled
  /-- There is a text to send. -/
  texts : stage = .voicing → bot.settings.fallbackMessages ≠ []

section

variable {bot : Bot} {e event : Event} {s : Subscriber} {p q : Stage × World}

/-- After a move that failed no outcome is in view. -/
theorem Stage.outcome?_failed (m : Move) (err : BotError) (c : Conversation) :
    (failed m err c).outcome? = none := by
  cases m <;> rfl

/-- Every transition of a provided bot keeps the unhandled outcome out of view. -/
theorem Stage.Answers.step (hbot : bot.Provided) (hp : p.1.Answers bot) (h : bot.Moves e s p q) :
    q.1.Answers bot := by
  have hfailed : ∀ {m : Move} {err : BotError} {c : Conversation},
      (Stage.failed m err c).Answers bot := by
    intro m err c
    refine ⟨?_, nofun⟩
    rw [Stage.outcome?_failed]
    exact nofun
  cases h with
  | unfound | absent | found | unloaded | unanswered => exact ⟨nofun, nofun⟩
  | answered | asked => exact ⟨nofun, nofun⟩
  | bare | kept | stored | entered | said | read | linked => exact ⟨hp.outcome, nofun⟩
  | unkept | unstored | unsaid | unread | unstood => exact hfailed
  | last | unlinked | missing | cycle | stood => exact ⟨hp.outcome, nofun⟩
  | ended | unended | credited => exact ⟨hp.outcome, nofun⟩
  | unlisted | unmatched | unopened => exact ⟨nofun, nofun⟩
  | matched => exact ⟨nofun, nofun⟩
  | opened => exact ⟨hp.outcome, nofun⟩
  | silent hoff => cases hbot.enabled.symm.trans hoff
  | fallen | unsought | sought => exact ⟨nofun, nofun⟩
  | lost hid hmissing =>
    refine ⟨nofun, fun _ => hbot.answer.resolve_left ?_⟩
    rintro ⟨id, b, hid', hb⟩
    obtain rfl := Option.some.inj (hid.symm.trans hid')
    cases hmissing.symm.trans hb
  | plain hnone =>
    refine ⟨nofun, fun _ => hbot.answer.resolve_left ?_⟩
    rintro ⟨id, b, hid, -⟩
    cases hnone.symm.trans hid
  | mute hnil => exact absurd hnil (hp.texts rfl)
  | voiced | unvoiced => exact ⟨nofun, nofun⟩

theorem Bot.Path.answers (hbot : bot.Provided) (h : bot.Path e s p q) (hp : p.1.Answers bot) :
    q.1.Answers bot :=
  h.preserves (I := fun r => r.1.Answers bot) (fun _ _ hmove hr => hr.step hbot hmove) hp

/-- **A provided bot answers** each event of a subscriber with a message, or it fails. -/
theorem Bot.Provided.answers (hbot : bot.Provided) (hs : event.sender = some s) (w : World) :
    (bot.handle event w).1 ≠ .ok .unhandled ∧
      ∀ o, (bot.handle event w).1 = .ok o → (bot.handle event w).2.sentSince w ≠ [] := by
  obtain ⟨s', hs', -⟩ := Bot.sender_detectLanguage event bot.settings.languages hs
  have hpath := Bot.path_handle hs' w
  have hhandled : (bot.handle event w).1 ≠ .ok .unhandled := by
    intro hrun
    rw [hrun] at hpath
    exact (hpath.answers hbot ⟨nofun, nofun⟩).outcome rfl
  refine ⟨hhandled, fun o hrun => ?_⟩
  rw [hrun] at hpath hhandled
  exact hpath.spoken trivial o rfl fun ho => hhandled (congrArg Except.ok ho)

/-- **A valid configuration always answers.** If a configuration was found valid and lets the bot
fall back, then no turn of the bot with its settings is unhandled, provided that the bot has the
block that the configuration may name. In whatever state such a turn begins, it sends a message or
fails. -/
theorem Config.always_answers {config : Config} (hvalid : config.validate = .ok ())
    (hfallback : config.chatbot.globalFallback = true) (hsettings : bot.settings = config.chatbot)
    (hblock : ∀ id, config.chatbot.fallbackBlock = some id → ∃ b, bot.blocks.find? id = some b)
    (hs : event.sender = some s) (w : World) :
    (bot.handle event w).1 ≠ .ok .unhandled ∧
      ∀ o, (bot.handle event w).1 = .ok o → (bot.handle event w).2.sentSince w ≠ [] := by
  have hchatbot := (validate_eq_ok_iff.mp hvalid).2.1
  rw [← hsettings] at hchatbot hfallback hblock
  exact (Settings.provides hchatbot hfallback hblock).answers hs w

end

namespace Sample

/-- A configuration by which a bot falls back on a block. -/
def helpful : Config :=
  { Config.standard with
    chatbot := { Settings.standard with fallbackBlock := some "thanks", fallbackMessages := [] } }

/-- The bot with its settings. -/
def helper : Bot := { bot with settings := helpful.chatbot }

end Sample

/-- Ann writes what nothing answers, and a conversation is started at the block to fall back on. -/
theorem Config.always_answers_helpful :
    Sample.helpful.validate = .ok () ∧
      (Sample.helper.handle (Sample.saying "what?") (Sample.world [])).1 =
        .ok (.fallbackBlock "Thanks") ∧
      (Sample.helper.handle (Sample.saying "what?") (Sample.world [])).2.sentSince
        (Sample.world []) ≠ [] := by
  have hvalid : Sample.helpful.validate = .ok () := by decide +kernel
  have hrun : (Sample.helper.handle (Sample.saying "what?") (Sample.world [])).1 =
      .ok (.fallbackBlock "Thanks") := by decide +kernel
  have hblock : ∀ id, Sample.helpful.chatbot.fallbackBlock = some id →
      ∃ b, Sample.helper.blocks.find? id = some b := by
    intro id hid
    cases hid
    exact ⟨Sample.thanks, by decide⟩
  have hsender : (Sample.saying "what?").sender = some Sample.ann := rfl
  obtain ⟨-, hspeaks⟩ := Config.always_answers hvalid rfl rfl hblock hsender (Sample.world [])
  exact ⟨hvalid, hrun, hspeaks _ hrun⟩

end Chatflow
