import Chatflow.Proofs.Bot.Moments
import Chatflow.Proofs.Conversation.Asking

/-!
# Unhandled turns

A turn in which nothing was sent is unhandled, and one is unhandled exactly when nothing was sent
after the active conversation of the sender did not answer, or there was none
(`World.unhandled_iff`). So an unhandled turn was silent, but for one case: the conversation may
have sent messages, of a block and of those attached to it, before it broke off on an error
(`World.BrokenOff`). The turn then goes on as if nothing had been said.

Three things are followed from stage to stage: that an outcome other than the unhandled one comes
after a message (`Spoken`), that none is sent on the way from where a conversation may be started to
the unhandled outcome (`Silent`), and what was sent before that (`Breaking`).
-/

namespace Chatflow

/-- Since the world `w₀` the conversation of a sender that was active there has ended on an error,
and all messages were sent within it. -/
structure World.BrokenOff (w w₀ : World) (s : Subscriber) (c : Conversation) : Prop where
  /-- It was the active one. -/
  active : w₀.conversations.active? s.id = some c
  /-- All that was said was said in it. -/
  said : ∀ x ∈ w.sentSince w₀, x.conversation = some c.id
  /-- Its end on an error was reported. -/
  reported : ∃ c' err, c'.id = c.id ∧ .conversationEnd c' (some err) ∈ w.reportedSince w₀

section

variable {bot : Bot} {e : Event} {s : Subscriber} {w₀ : World} {p q : Stage × World}

/-! ### An outcome comes after a message -/

/-- The outcome of a turn at an exit, if it has one. -/
def Exit.outcome? : Exit → Option Outcome
  | .done m => some m.outcome
  | .finished (.ok o) => some o
  | .free | .finished (.error _) => none

/-- Something was sent since the world `w₀`, at the stages after a message. -/
def Spoken (w₀ : World) : Stage × World → Prop
  | (.sent _ _ _ _, w) | (.standing _ _, w) => w.sentSince w₀ ≠ []
  | (.ending _ _ x, w) | (.exit x, w) =>
    ∀ o, x.outcome? = some o → o ≠ .unhandled → w.sentSince w₀ ≠ []
  | _ => True

/-- A message that is sent is one sent since. -/
theorem Bot.Sends.sentSince_ne_nil {b : Block} {c : Context} {fallback : Bool}
    {conversation : Option String} {w w' : World} {mid : String} (hgrows : w₀.Grows w)
    (h : Bot.Sends bot e s b c fallback conversation w (.ok mid) w') : w'.sentSince w₀ ≠ [] := by
  cases h with
  | applied _ hheard _ =>
    have hsent := World.sentSince_concat hgrows.journal hheard.journal
    exact fun hnil => List.concat_ne_nil _ _ (hsent.symm.trans hnil)

/-- Every transition keeps it. -/
theorem Spoken.step (hgrows : w₀.Grows p.2) (hp : Spoken w₀ p) (h : bot.Moves e s p q) :
    Spoken w₀ q := by
  have hfailed : ∀ {m : Move} {err : BotError} {c : Conversation} {w : World},
      Spoken w₀ (.failed m err c, w) := by
    intro m err c w o ho
    cases m <;> cases ho
  cases h with
  | said hsends => exact hsends.sentSince_ne_nil hgrows
  | voiced _ hsends => exact fun _ _ _ => hsends.sentSince_ne_nil hgrows
  | unkept | unstored | unsaid | unread | unstood => exact hfailed
  | read => exact hp
  | last | unlinked | missing | cycle | stood => exact fun _ _ _ => hp
  | ended | unended => exact hp
  | credited => exact hp
  | silent | mute =>
    intro o ho hhandled
    exact absurd (Option.some.inj ho).symm hhandled
  | unfound | absent | unloaded | unanswered | unlisted | unopened | unsought | unvoiced =>
    exact fun _ ho => nomatch ho
  | _ => trivial

theorem Bot.Path.spoken (h : bot.Path e s p q) (hp : Spoken p.2 p) : Spoken p.2 q :=
  h.preserves_grown (fun _ _ hgrows hmove hr => hr.step hgrows hmove) hp

/-! ### Where a conversation may be started -/

/-- Nothing was sent since the world `w₀`, from where a conversation may be started to the unhandled
outcome. -/
def Silent (w₀ : World) : Stage × World → Prop
  | (.exit .free, w) | (.unmatched, w) | (.falling, w) | (.voicing, w)
  | (.exit (.finished (.ok .unhandled)), w) => w.sentSince w₀ = []
  | _ => True

/-- A conversation that is started does not lead to the unhandled outcome. -/
theorem Move.outcome_ne_unhandled {m : Move} (h : m.starts = true) : m.outcome ≠ .unhandled := by
  match m, h with
  | .start (.started _), _ => exact nofun
  | .start (.fallbackBlock _), _ => exact nofun

/-- Every transition past the active conversation keeps it. -/
theorem Silent.step (hpast : p.1.isPast = true) (hp : Silent w₀ p) (h : bot.Moves e s p q) :
    Silent w₀ q := by
  cases h with
  | unfound | absent | found | unloaded | answered | asked | unanswered => cases hpast
  | @ended _ _ _ x | @unended _ _ _ x =>
    -- such a conversation was just started
    cases x with
    | free => cases hpast
    | done m => trivial
    | finished r =>
      cases r with
      | error err => trivial
      | ok o => cases hpast
  | @credited w m =>
    have hne := Move.outcome_ne_unhandled (m := m) hpast
    cases ho : m.outcome with
    | unhandled => exact absurd ho hne
    | _ => trivial
  | unmatched | silent | fallen | lost | plain | mute => exact hp
  | _ => trivial

theorem Bot.Path.silent {w : World} (h : bot.Path e s (.exit .free, w) q) : Silent w q :=
  (h.preserves (I := fun r => r.1.isPast = true ∧ Silent w r)
    (fun _ _ hmove ⟨hpast, hr⟩ => ⟨hmove.isPast hpast, hr.step hpast hmove⟩)
    ⟨rfl, w.sentSince_self⟩).2

/-- **From where a conversation may be started** a turn is unhandled exactly when it sends
nothing. -/
theorem Bot.Path.eq_unhandled_iff {w w' : World} {o : Outcome}
    (h : bot.Path e s (.exit .free, w) (.exit (.finished (.ok o)), w')) :
    o = .unhandled ↔ w'.sentSince w = [] := by
  constructor
  · rintro rfl
    exact h.silent
  · intro hnil
    exact Decidable.byContradiction fun hhandled =>
      h.spoken (fun _ ho => nomatch ho) o rfl hhandled hnil

/-! ### The active conversation -/

/-- A conversation is, by its id, the one of a sender that was active in a world. -/
def Conversation.WasActive (c : Conversation) (s : Subscriber) (w₀ : World) : Prop :=
  ∃ c₀, w₀.conversations.active? s.id = some c₀ ∧ c₀.id = c.id

/-- The conversation in hand was active in the world `w₀`, and all messages since were sent within
it. -/
def Conversation.Speaks (c : Conversation) (s : Subscriber) (w₀ w : World) : Prop :=
  c.WasActive s w₀ ∧ ∀ x ∈ w.sentSince w₀, x.conversation = some c.id

/-- What was sent since the world `w₀`, in which the turn began, up to where its active conversation
is out of hand. -/
def Breaking (s : Subscriber) (w₀ : World) : Stage × World → Prop
  | (.waiting, w) => w = w₀
  | (.found c, w) => c.WasActive s w₀ ∧ w.sentSince w₀ = []
  | (.entering m _ c, w) | (.storing m _ c, w) | (.entered m _ c, w) | (.sending m _ _ c, w)
  | (.sent m _ _ c, w) | (.standing m c, w) => m.starts = false → c.Speaks s w₀ w
  | (.ending c error x, w) =>
    x = .free → c.Speaks s w₀ w ∧ (error = none → w.sentSince w₀ = [])
  | (.opening _ o, _) => (Move.start o).starts = true
  | (.exit .free, w) => w.sentSince w₀ = [] ∨ ∃ c, w.BrokenOff w₀ s c
  | _ => True

/-- A conversation speaks on if it sends a message. -/
theorem Bot.Sends.speaks {b : Block} {c : Conversation} {fallback : Bool}
    {w w' : World} {r : Except BotError String} (hgrows : w₀.Grows w) (hc : c.Speaks s w₀ w)
    (h : Bot.Sends bot e s b c.context fallback (some c.id) w r w') : c.Speaks s w₀ w' := by
  refine ⟨hc.1, fun x hx => ?_⟩
  obtain hsame | ⟨y, hy, hconversation, -⟩ := h.sent_cases
  · rw [World.sentSince, hsame] at hx
    exact hc.2 x hx
  · rw [World.sentSince_concat hgrows.journal hy, List.mem_append, List.mem_singleton] at hx
    obtain hx | rfl := hx
    · exact hc.2 x hx
    · exact hconversation

namespace Breaking

/-- A conversation whose move failed speaks until it is out of hand. -/
theorem failed {m : Move} {err : BotError} {c : Conversation} {w : World}
    (h : m.starts = false → c.Speaks s w₀ w) : Breaking s w₀ (.failed m err c, w) := by
  intro hx
  cases m with
  | answer | again => exact ⟨h rfl, nofun⟩
  | start o => cases hx

/-- What is out of hand after its end was reported. -/
theorem ended {c : Conversation} {error : Option String} {x : Exit} {w w' : World}
    (hp : Breaking s w₀ (.ending c error x, w)) (hj : w'.journal = w.journal)
    (hgrows : w₀.Grows w)
    (ht : w'.telemetry = w.telemetry ++ [.conversationEnd { c with active := false } error]) :
    Breaking s w₀ (.exit x, w') := by
  cases x with
  | done m => trivial
  | finished r => trivial
  | free =>
    obtain ⟨⟨⟨c₀, hc₀, hid⟩, hsaid⟩, hsilent⟩ := hp rfl
    have hsent : w'.sentSince w₀ = w.sentSince w₀ := by rw [World.sentSince, hj, World.sentSince]
    cases error with
    | none => exact .inl (hsent.trans (hsilent rfl))
    | some err =>
      refine .inr ⟨c₀, hc₀, ?_, { c with active := false }, err, hid.symm,
        World.mem_reportedSince_concat hgrows.telemetry ht⟩
      rw [hsent, hid]
      exact hsaid

/-- Every transition keeps it. -/
theorem step (hgrows : w₀.Grows p.2) (hp : Breaking s w₀ p) (h : bot.Moves e s p q) :
    Breaking s w₀ q := by
  cases h with
  | unfound | unlisted | unopened | silent | unsought | mute | voiced | unvoiced | credited |
      unmatched | fallen | lost | plain => trivial
  | absent =>
    obtain rfl : _ = _ := hp
    exact .inl (World.sentSince_self _)
  | found hc =>
    obtain rfl : _ = _ := hp
    exact ⟨⟨_, hc, rfl⟩, World.sentSince_self _⟩
  | unloaded => exact nofun
  | answered | asked =>
    obtain ⟨hactive, hnil⟩ := hp
    refine fun _ => ⟨hactive, fun x hx => ?_⟩
    change x ∈ World.sentSince _ _ at hx
    exact absurd (hnil ▸ hx) List.not_mem_nil
  | unanswered =>
    obtain ⟨hactive, hnil⟩ := hp
    refine fun _ => ⟨⟨hactive, fun x hx => ?_⟩, fun _ => hnil⟩
    exact absurd (hnil ▸ hx) List.not_mem_nil
  | bare | kept | stored | entered | read | linked => exact hp
  | unkept | unstored | unread | unstood => exact failed hp
  | said hsends => exact fun hm => hsends.speaks hgrows (hp hm)
  | unsaid hsends => exact failed fun hm => hsends.speaks hgrows (hp hm)
  | last | unlinked | missing | cycle => exact nofun
  | stood => trivial
  | ended | unended => exact Breaking.ended hp rfl hgrows rfl
  | matched => rfl
  | sought => rfl
  | @opened w b o r hr => exact fun hm => absurd (hp.symm.trans hm) (by decide)

end Breaking

/-- **Where a conversation may be started**, nothing was sent before, or the conversation that was
active has broken off. -/
theorem Bot.Path.silent_or_brokenOff {w : World}
    (h : bot.Path e s (.waiting, w₀) (.exit .free, w)) :
    w.sentSince w₀ = [] ∨ ∃ c, w.BrokenOff w₀ s c :=
  h.preserves_grown (I := Breaking s w₀) (fun _ _ hgrows hmove hr => hr.step hgrows hmove) rfl

namespace World

/-! ### Turns -/

variable {w w₁ w' : World} {event : Event} {o : Outcome}

/-- A conversation that has broken off has broken off for good, if nothing is said after. -/
theorem BrokenOff.later {c : Conversation} (h : w₁.BrokenOff w s c) (hgrows : w.Grows w₁)
    (hgrows' : w₁.Grows w') (hnil : w'.sentSince w₁ = []) : w'.BrokenOff w s c where
  active := h.active
  said := by
    rw [sentSince_append hgrows.journal hgrows'.journal, hnil, List.append_nil]
    exact h.said
  reported := by
    obtain ⟨c', err, hid, hmem⟩ := h.reported
    exact ⟨c', err, hid, hgrows'.reportedSince_subset hmem⟩

/-- **Unhandled turns.** All that a turn sends goes to the sender of the event. A turn that sends
nothing is unhandled, and an unhandled turn sent nothing, unless the conversation that was active
broke off on an error after it had sent something. In any case a turn is unhandled exactly when the
active conversation did not answer, or there was none, and nothing was sent after that. -/
theorem unhandled_iff (hs : event.sender = some s) (hrun : bot.handle event w = (.ok o, w')) :
    (∀ x ∈ w'.sentSince w, x.recipient = s.foreignId ∧ x.channel = event.channel) ∧
      (w'.sentSince w = [] → o = .unhandled) ∧
      (o = .unhandled → w'.sentSince w = [] ∨ ∃ c, w'.BrokenOff w s c) ∧
      (o = .unhandled ↔ ∃ w₁, bot.continueActive
          (event.detectLanguage bot.settings.languages) w = (.ok false, w₁) ∧
        w'.sentSince w₁ = []) := by
  obtain ⟨s', hs', hid, hforeign, -⟩ :=
    Bot.sender_detectLanguage event bot.settings.languages hs
  have hchannel := Bot.channel_detectLanguage event bot.settings.languages
  have hpath := Bot.path_handle hs' w
  rw [hrun] at hpath
  refine ⟨?_, fun hnil => ?_, ?_⟩
  · rw [← hforeign, ← hchannel]
    exact hpath.sent_to_sender
  · exact Decidable.byContradiction fun hhandled => hpath.spoken trivial o rfl hhandled hnil
  -- the turn is cut where the active conversation has answered or not
  obtain ⟨x, hfirst, hx⟩ := bot.path_continueActive hs' w
  generalize hcontinue : bot.continueActive (event.detectLanguage bot.settings.languages) w = run
    at hfirst hx
  obtain ⟨r, w₁⟩ := run
  obtain ⟨err, rfl, rfl⟩ | ⟨rfl, rfl⟩ | ⟨rfl, rfl⟩ := hx
  · rw [Bot.handle_of_failed hs' hcontinue] at hrun
    cases hrun
  · rw [Bot.handle_of_continued hs' hcontinue] at hrun
    cases hrun
    exact ⟨nofun, nofun, fun ⟨_, h, _⟩ => nomatch h⟩
  · have hrest := Bot.path_handle_of_free hs' hcontinue
    rw [hrun] at hrest
    have hiff := hrest.eq_unhandled_iff
    refine ⟨fun ho => ?_, ?_⟩
    · have hnil := hiff.mp ho
      have hsent := sentSince_append hfirst.grows.journal hrest.grows.journal
      rw [hsent, hnil, List.append_nil]
      refine hfirst.silent_or_brokenOff.imp_right ?_
      rintro ⟨c, hbroken⟩
      have hlater := hbroken.later hfirst.grows hrest.grows hnil
      exact ⟨c, hid ▸ hlater.active, hlater.said, hlater.reported⟩
    · rw [hiff]
      constructor
      · exact fun hnil => ⟨w₁, rfl, hnil⟩
      · rintro ⟨w₂, hw₂, hnil⟩
        obtain rfl : w₁ = w₂ := congrArg Prod.snd hw₂
        exact hnil

end World

end

namespace Sample

/-- A block whose message cannot be rendered: its file is not a stored one. -/
def photo : Block := Block.plain "photo" "Photo" (.attachment ⟨"image", none, some "/photo.png"⟩ [])

/-- A bot that says thanks and then fails. -/
def failing : Bot :=
  { bot with blocks := ⟨[hello, { thanks with attachedBlock := some "photo" }, photo]⟩ }

theorem sound_worldOf (bot : Bot) (texts : List String) :
    (worldOf bot texts).conversations.Sound :=
  World.after_preserves World.sound_occur _ (World.sound_after channels (history []))

end Sample

namespace World

/-- Ann was thanked before the conversation broke off, and nothing was said after. -/
theorem unhandled_iff_thanked :
    (Bot.handle Sample.failing (Sample.saying "fine") (Sample.worldOf Sample.failing ["hi"])).1 =
        .ok .unhandled ∧
      ∃ c, (Bot.handle Sample.failing (Sample.saying "fine")
        (Sample.worldOf Sample.failing ["hi"])).2.BrokenOff (Sample.worldOf Sample.failing ["hi"])
          Sample.ann c := by
  have hrun : (Bot.handle Sample.failing (Sample.saying "fine")
      (Sample.worldOf Sample.failing ["hi"])).1 = .ok .unhandled := by decide +kernel
  have hspoke : (Bot.handle Sample.failing (Sample.saying "fine")
      (Sample.worldOf Sample.failing ["hi"])).2.sentSince
        (Sample.worldOf Sample.failing ["hi"]) ≠ [] := by decide +kernel
  obtain ⟨-, -, hsilent, -⟩ := unhandled_iff (s := Sample.ann) rfl (Prod.ext hrun rfl)
  exact ⟨hrun, (hsilent rfl).resolve_left hspoke⟩

/-- A turn that said something may be unhandled, though nobody has two active conversations. -/
theorem unhandled_thanked :
    (∀ sender, (Sample.worldOf Sample.failing ["hi"]).conversations.activeCount sender ≤ 1) ∧
      (Sample.saying "fine").sender = some Sample.ann ∧
      (Bot.handle Sample.failing (Sample.saying "fine") (Sample.worldOf Sample.failing ["hi"])).1 =
        .ok .unhandled ∧
      ((Bot.handle Sample.failing (Sample.saying "fine")
        (Sample.worldOf Sample.failing ["hi"])).2.sentSince
          (Sample.worldOf Sample.failing ["hi"])).map (fun x => (x.recipient, x.envelope)) =
        [("ann", .text "Thanks!")] :=
  ⟨(Sample.sound_worldOf _ _).single, rfl, by decide +kernel, by decide +kernel⟩

end World

end Chatflow
