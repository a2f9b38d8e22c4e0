import Chatflow.Proofs.Conversation.Single

/-!
# Where conversations stand

No turn leaves a conversation half moved on: `World.stands_after_turn`. After a turn an active
conversation of the sender stands at the block whose message was the last one sent, and waits for
the blocks that this block names. This holds whichever calls fail, but for the lookup and the end
of the conversation: a conversation that was not seen, or could not be ended, stays as it was.

The proof has two parts. A conversation that is active after a turn was left standing by a move of
the turn, since all other ways out of a conversation end it (`Upright`); and what a conversation is
about to stand at is the block whose message was sent last (`Voiced`).
-/

namespace Chatflow

open ConversationStore

/-! ### The way to where a conversation stands -/

/-- Each active conversation of the sender was written at the end of a move of the turn that began
in the world `w₀`, and no message was sent since: so it is if the conversations were seen and none
failed to be ended. -/
def World.Settled (w w₀ : World) (bot : Bot) (e : Event) (s : Subscriber) : Prop :=
  .findActive ∉ w.failedSince w₀ → .endConversation ∉ w.failedSince w₀ →
    ∀ id c, w.conversations.find? id = some c → isActiveOf s.id c = true →
      ∃ m v, bot.Path e s (.waiting, w₀) (.standing m c, v) ∧ w.journal = v.journal

/-- At the end of a turn that began in the world `w₀` the conversations are settled. -/
def Upright (bot : Bot) (e : Event) (s : Subscriber) (w₀ : World) : Stage × World → Prop
  | (.exit (.done _), w) | (.exit (.finished _), w) => w.Settled w₀ bot e s
  | _ => True

namespace World.Settled

variable {w₀ w w' : World} {bot : Bot} {e : Event} {s : Subscriber}

/-- Without an active conversation there is nothing to settle. -/
theorem of_activeCount (h : .endConversation ∉ w.failedSince w₀ →
    w.conversations.activeCount s.id = 0) : w.Settled w₀ bot e s := by
  intro _ hend id c hc hactive
  have hzero := h hend
  rw [activeCount_eq_count, count_eq_zero] at hzero
  rw [hzero id c hc] at hactive
  cases hactive

/-- What follows where a conversation might have been started. -/
theorem of_free (h : Steady s w₀ (.free, w)) (hspares : w.Spares w') :
    w'.Settled w₀ bot e s := by
  refine .of_activeCount fun hend => ?_
  rw [hspares.conversations]
  exact h.free rfl (World.not_mem_failedSince hspares.failures hend)

end World.Settled

namespace Upright

variable {bot : Bot} {e : Event} {s : Subscriber} {w₀ : World} {p q : Stage × World}

/-- What comes out of an ended conversation. -/
theorem exit {x : Exit} {w : World} (h : w.Settled w₀ bot e s) :
    Upright bot e s w₀ (.exit x, w) := by
  cases x with
  | free => trivial
  | done m => exact h
  | finished r => exact h

/-- **Every transition keeps it.** -/
theorem step (hsteady : Steady s w₀ (p.1.phase, p.2)) (hpath : bot.Path e s (.waiting, w₀) p)
    (hp : Upright bot e s w₀ p) (h : bot.Moves e s p q) : Upright bot e s w₀ q := by
  cases h with
  | unfound =>
    intro hfind
    exact absurd (World.mem_failedSince_failed hsteady.failures) hfind
  | @stood w m c store hstore =>
    intro _ _ id r hr hactive
    -- the one active conversation is the one that was written
    have hholds := (hsteady.held rfl).written hstore
    have hsound : store.Sound := (hsteady.step (q := (.finished, { w with conversations := store }))
      (.written hstore (World.Spares.refl _) (.inr rfl))).sound
    have hc : store.find? c.id = some c := by
      rw [find?_update hstore, if_pos rfl]
    have hr : store.find? id = some r := hr
    obtain rfl : id = c.id := hsound.id_unique hr hc hactive hholds.isActiveOf
    obtain rfl : r = c := Option.some.inj (hr.symm.trans hc)
    exact ⟨m, w, hpath, rfl⟩
  | @ended w c error x store hstore =>
    refine exit (.of_activeCount fun _ => ?_)
    obtain ⟨r, hr, hact⟩ := (hsteady.held rfl).stored
    exact hsteady.sound.activeCount_finish hstore hr hact
  | unended =>
    refine exit fun _ hend => ?_
    exact absurd (World.mem_failedSince_failed hsteady.failures) hend
  | credited => exact hp
  | unlisted | unsought => exact .of_free hsteady (World.spares_refused _ _)
  | unopened =>
    exact .of_free hsteady ((World.spares_emitted _ rfl rfl).trans (World.spares_refused _ _))
  | silent | mute => exact .of_free hsteady (World.Spares.refl _)
  | voiced _ hsends | unvoiced hsends => exact .of_free hsteady hsends.spares
  | _ => trivial

end Upright

/-- **An active conversation was left standing by a move of the turn.** -/
theorem Bot.Path.settled {bot : Bot} {e : Event} {s : Subscriber} {w w' : World}
    {r : Except BotError Outcome} (h : bot.Path e s (.waiting, w) (.exit (.finished r), w'))
    (hsound : w.conversations.Sound) : w'.Settled w bot e s :=
  (h.turn_preserves (I := Upright bot e s w) hsound trivial fun hpath hsteady hmove hup =>
    hup.step hsteady hpath hmove).2

/-! ### What was said last -/

/-- The last message since a world was that of a block, sent to the sender of an event within a
conversation. -/
def World.LastSaid (w w₀ : World) (e : Event) (s : Subscriber) (b : Block) (c : Conversation) :
    Prop :=
  ∃ x, (w.sentSince w₀).getLast? = some x ∧ x.block = b ∧ x.conversation = some c.id ∧
    x.recipient = s.foreignId ∧ x.channel = e.channel

/-- A conversation stands at the block whose message was the last one since a world, and waits for
the blocks that this block names. -/
def World.Stands (w w₀ : World) (bot : Bot) (e : Event) (s : Subscriber) (c : Conversation) :
    Prop :=
  ∃ b, w.LastSaid w₀ e s b c ∧ c.current = some b ∧ b.attachedBlock = none ∧ b.nextBlocks ≠ [] ∧
    c.next = bot.blocks.findMany b.nextBlocks

/-- What is known of the last message at the stages of a turn that began in the world `w₀`. -/
def Voiced (bot : Bot) (e : Event) (s : Subscriber) (w₀ : World) : Stage × World → Prop
  | (.sent _ _ b c, w) => w.LastSaid w₀ e s b c
  | (.standing _ c, w) => w.Stands w₀ bot e s c
  | _ => True

/-- Every transition keeps what is known of the last message. -/
theorem Voiced.step {bot : Bot} {e : Event} {s : Subscriber} {w₀ : World} {p q : Stage × World}
    (hj : w₀.journal <+: p.2.journal) (hp : Voiced bot e s w₀ p) (h : bot.Moves e s p q) :
    Voiced bot e s w₀ q := by
  cases h with
  | said hsends =>
    cases hsends with
    | applied _ hheard _ =>
      have hlast := congrArg List.getLast? (World.sentSince_concat hj hheard.journal)
      rw [List.getLast?_concat] at hlast
      exact ⟨_, hlast, rfl, rfl, rfl, rfl⟩
  | read h hn =>
    obtain ⟨x, hx, hrest⟩ := hp
    exact ⟨_, ⟨x, hx, hrest⟩, rfl, h, hn, rfl⟩
  | _ => trivial

/-! ### Runs -/

namespace World

variable {w w' : World} {bot : Bot} {event : Event} {s : Subscriber}
  {r : Except BotError Outcome}

/-- An active conversation of the sender stands at the end of a turn. -/
theorem stands_handle (h : w.conversations.Sound) (hs : event.sender = some s)
    (hrun : bot.handle event w = (r, w')) (hfind : .findActive ∉ w'.failedSince w)
    (hend : .endConversation ∉ w'.failedSince w) {id : String} {c : Conversation}
    (hc : w'.conversations.find? id = some c) (hactive : isActiveOf s.id c = true) :
    w'.Stands w bot event s c := by
  obtain ⟨s', hs', hid, hforeign, -⟩ :=
    Bot.sender_detectLanguage event bot.settings.languages hs
  have hchannel := Bot.channel_detectLanguage event bot.settings.languages
  have hturn := Bot.path_handle hs' w
  rw [hrun] at hturn
  rw [← hid] at hactive
  obtain ⟨m, v, hpath, hjournal⟩ := hturn.settled h hfind hend id c hc hactive
  have hvoiced := hpath.turn_preserves (I := Voiced bot _ s' w) h trivial
    fun hpath _ hmove hp => hp.step hpath.grows.journal hmove
  obtain ⟨b, ⟨x, hx, hblock, hconversation, hrecipient, hsent⟩, hstands⟩ := hvoiced.2
  refine ⟨b, ⟨x, ?_, hblock, hconversation, hrecipient.trans hforeign, hsent.trans hchannel⟩,
    hstands⟩
  rw [sentSince, hjournal]
  exact hx

/-- **No turn leaves a conversation half moved on.** After a turn, if no lookup of an active
conversation failed in it and no end of one, the sender has no active conversation, or one that
stands at the block whose message was the last one sent to the sender in the turn. -/
theorem stands_after_turn {channels : Channel.Registry} {history : List Occurrence}
    (hw : (fresh channels).after history = w) (hs : event.sender = some s)
    (hrun : bot.handle event w = (r, w')) (hfind : .findActive ∉ w'.failedSince w)
    (hend : .endConversation ∉ w'.failedSince w) :
    w'.conversations.activeCount s.id = 0 ∨
      ∃ c, w'.conversations.active? s.id = some c ∧ w'.conversations.activeCount s.id = 1 ∧
        w'.Stands w bot event s c := by
  have hsound : w.conversations.Sound := hw ▸ sound_after channels history
  have hsound' : w'.conversations.Sound := by
    have hturn := sound_occur w (.turn bot event) hsound
    rwa [occur, hrun] at hturn
  cases hactive : w'.conversations.active? s.id with
  | none => exact .inl (activeCount_eq_zero_of_active? hactive)
  | some c =>
    obtain ⟨hc, hact⟩ := hsound'.find?_of_active? hactive
    -- the conversation that was found is the only one
    have hle := hsound'.single s.id
    have hpos : w'.conversations.activeCount s.id ≠ 0 := by
      intro hzero
      rw [activeCount_eq_count, count_eq_zero] at hzero
      rw [hzero c.id c hc] at hact
      cases hact
    refine .inr ⟨c, rfl, ?_, stands_handle hsound hs hrun hfind hend hc hact⟩
    omega

/-- A conversation that was just started stands. -/
theorem stands_after_turn_started :
    ∃ c, (Bot.handle Sample.bot (Sample.saying "hi") (Sample.world [])).2.conversations.active?
        "sub-1" = some c ∧
      (Bot.handle Sample.bot (Sample.saying "hi") (Sample.world [])).2.Stands (Sample.world [])
        Sample.bot (Sample.saying "hi") Sample.ann c := by
  have hactive : (Bot.handle Sample.bot (Sample.saying "hi")
      (Sample.world [])).2.conversations.activeCount "sub-1" ≠ 0 := by decide +kernel
  have hstands := stands_after_turn (w := Sample.world []) (s := Sample.ann) rfl rfl
    (Prod.eta (Bot.handle Sample.bot (Sample.saying "hi") (Sample.world []))).symm
    (by decide +kernel) (by decide +kernel)
  obtain ⟨c, hc, -, hstands⟩ := hstands.resolve_left hactive
  exact ⟨c, hc, hstands⟩

end World

end Chatflow
