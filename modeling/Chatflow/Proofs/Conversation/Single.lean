import Chatflow.Proofs.Bot.History
import Chatflow.Proofs.Bot.Shift

/-!
# One active conversation

No subscriber ever has two active conversations, and no turn asks for one to be created for a
subscriber who has one: `World.single_active`. The store refuses to create a second one but would
take it as a write, so this rests on what turns do. What they keep is `Steady`: the store is sound,
a conversation in hand is an active one of the sender, and where the turn may start a conversation
the sender has none, unless the end of one failed in this turn.
-/

namespace Chatflow

open ConversationStore

/-- A conversation in hand is an active one of the sender, and lies over one on record. -/
structure Conversation.Holds (c : Conversation) (s : Subscriber) (store : ConversationStore) :
    Prop where
  active : c.active = true
  sender : c.sender = s.id
  stored : ∃ r, store.find? c.id = some r ∧ isActiveOf s.id r = true

namespace Conversation.Holds

variable {c c' : Conversation} {s : Subscriber} {store : ConversationStore}

theorem isActiveOf (h : c.Holds s store) : ConversationStore.isActiveOf s.id c = true := by
  simp [ConversationStore.isActiveOf, h.active, h.sender]

theorem exists_active (h : c.Holds s store) :
    ∃ r, store.find? c.id = some r ∧ r.active = true := by
  obtain ⟨r, hr, hact⟩ := h.stored
  simp only [ConversationStore.isActiveOf, Bool.and_eq_true] at hact
  exact ⟨r, hr, hact.1⟩

/-- What else is in a conversation does not matter. -/
theorem changed (h : c.Holds s store) (hid : c'.id = c.id) (hactive : c'.active = c.active)
    (hsender : c'.sender = c.sender) : c'.Holds s store where
  active := hactive.trans h.active
  sender := hsender.trans h.sender
  stored := hid ▸ h.stored

/-- A conversation in hand can be written. -/
theorem written (h : c.Holds s store) {store' : ConversationStore}
    (hu : store.update c = .ok store') : c.Holds s store' where
  active := h.active
  sender := h.sender
  stored := ⟨c, by rw [find?_update hu, if_pos rfl], h.isActiveOf⟩

end Conversation.Holds

/-- What a turn keeps that began in the world `w₀`. -/
structure Steady (s : Subscriber) (w₀ : World) (p : Phase × World) : Prop where
  /-- The store is sound. -/
  sound : p.2.conversations.Sound
  /-- The failures before the turn are still on record. -/
  failures : w₀.failures <+: p.2.failures
  /-- A conversation in hand is an active one of the sender. -/
  held : ∀ {c synced}, p.1 = .holding c synced → c.Holds s p.2.conversations
  /-- Where a conversation may be started the sender has none, unless the end of one failed. -/
  free : p.1 = .free → .endConversation ∉ p.2.failedSince w₀ →
    p.2.conversations.activeCount s.id = 0

namespace Steady

variable {s : Subscriber} {w₀ w w' : World} {p q : Phase × World} {c : Conversation}

theorem start (h : w₀.conversations.Sound) : Steady s w₀ (.looking, w₀) where
  sound := h
  failures := List.prefix_rfl
  held h := nomatch h
  free h := nomatch h

/-- A world in which no conversation is in hand, and none may be started. -/
theorem finished (hsound : w.conversations.Sound) (hfailures : w₀.failures <+: w.failures) :
    Steady s w₀ (.finished, w) :=
  ⟨hsound, hfailures, fun h => (nomatch h), fun h => (nomatch h)⟩

/-- A world in which the sender has no active conversation, if no end failed. -/
theorem cleared {p : Phase} (hp : p = .free ∨ p = .finished) (hsound : w.conversations.Sound)
    (hfailures : w₀.failures <+: w.failures)
    (hfree : .endConversation ∉ w.failedSince w₀ → w.conversations.activeCount s.id = 0) :
    Steady s w₀ (p, w) := by
  obtain rfl | rfl := hp
  · exact ⟨hsound, hfailures, fun h => (nomatch h), fun _ => hfree⟩
  · exact finished hsound hfailures

/-- A world with a conversation in hand. -/
theorem holding {synced : Bool} (hsound : w.conversations.Sound)
    (hfailures : w₀.failures <+: w.failures) (h : c.Holds s w.conversations) :
    Steady s w₀ (.holding c synced, w) where
  sound := hsound
  failures := hfailures
  held hp := by
    cases hp
    exact h
  free hp := nomatch hp

/-- **Every transition keeps it.** -/
theorem step (hp : Steady s w₀ p) (h : Shift s p q) : Steady s w₀ q := by
  cases h with
  | unseen h =>
    exact finished (h.conversations ▸ hp.sound) (hp.failures.trans h.failures)
  | absent h hnone =>
    refine cleared (.inl rfl) (h.conversations ▸ hp.sound) (hp.failures.trans h.failures)
      fun _ => ?_
    rw [h.conversations]
    exact activeCount_eq_zero_of_active? hnone
  | @found w w' c h hc =>
    obtain ⟨hstored, hact⟩ := hp.sound.find?_of_active? hc
    obtain ⟨hactive, hsender⟩ : c.active = true ∧ c.sender = s.id := by
      simpa [isActiveOf] using hact
    refine holding (h.conversations ▸ hp.sound) (hp.failures.trans h.failures)
      ⟨hactive, hsender, c, ?_, hact⟩
    rw [h.conversations]
    exact hstored
  | held h hid hactive hsender =>
    exact holding (h.conversations ▸ hp.sound) (hp.failures.trans h.failures)
      (h.conversations ▸ (hp.held rfl).changed hid hactive hsender)
  | @written w w' c synced p store hstore h hphase =>
    obtain ⟨r, hr, hact⟩ := (hp.held rfl).stored
    have hsound : store.Sound := hp.sound.update hstore hr fun sender hsender => by
      -- both are active conversations of the sender
      have hc := (hp.held rfl).sender
      simp only [isActiveOf, Bool.and_eq_true, decide_eq_true_eq] at hsender hact ⊢
      exact ⟨hact.1, hact.2.trans (hc.symm.trans hsender.2)⟩
    have hholds := (hp.held rfl).written hstore
    have hconversations : w'.conversations = store := h.conversations
    obtain rfl | rfl := hphase
    · exact holding (hconversations ▸ hsound) (hp.failures.trans h.failures)
        (hconversations ▸ hholds)
    · exact finished (hconversations ▸ hsound) (hp.failures.trans h.failures)
  | @ended w w' c p error store hstore h hphase =>
    obtain ⟨r, hr, hact⟩ := (hp.held rfl).stored
    have hconversations : w'.conversations = store := h.conversations
    refine cleared hphase (hconversations ▸ hp.sound.finish hstore)
      (hp.failures.trans h.failures) fun _ => ?_
    rw [hconversations]
    exact hp.sound.activeCount_finish hstore hr hact
  | @unended w w' c p error h hfailed hphase =>
    have hconversations : w'.conversations = w.conversations := h.conversations
    refine cleared hphase (hconversations ▸ hp.sound) (hp.failures.trans h.failures)
      fun hn => absurd ?_ hn
    -- the conversation stays active, but its end failed
    have hmem : .endConversation ∈ (w.failed .endConversation).failedSince w₀ :=
      World.mem_failedSince_failed hp.failures
    rw [World.failedSince, hfailed]
    exact hmem
  | @created w w' r hstore h =>
    have hconversations : w'.conversations = r.2 := h.conversations
    have hfresh : r.1 = .fresh (idAfter w.conversations.created) s.id :=
      (create_eq_ok_iff.mp hstore).2.1
    have hstored : w'.conversations.find? r.1.id = some r.1 := by
      rw [hconversations, find?_create hstore, if_pos rfl]
    refine holding (hconversations ▸ hp.sound.create hstore) (hp.failures.trans h.failures)
      ⟨by rw [hfresh]; rfl, by rw [hfresh]; rfl, r.1, hstored, ?_⟩
    simp [isActiveOf, hfresh, Conversation.fresh]
  | idle h hphase hphase' =>
    have hsound := h.conversations ▸ hp.sound
    have hfailures := hp.failures.trans h.failures
    obtain rfl | rfl := hphase'
    · obtain rfl | rfl := hphase
      · refine cleared (.inl rfl) hsound hfailures fun hn => ?_
        rw [h.conversations]
        exact hp.free rfl (World.not_mem_failedSince h.failures hn)
      · exact finished hsound hfailures
    · exact finished hsound hfailures

end Steady

/-! ### Runs -/

/-- **What every transition of a turn keeps, a path into the turn keeps.** Of each transition it may
be used how the turn came to it, and that it is steady there. -/
theorem Bot.Path.turn_preserves {bot : Bot} {e : Event} {s : Subscriber} {w : World}
    {p : Stage × World} {I : Stage × World → Prop} (hpath : bot.Path e s (.waiting, w) p)
    (hsound : w.conversations.Sound) (hstart : I (.waiting, w))
    (hstep : ∀ {q r}, bot.Path e s (.waiting, w) q → Steady s w (q.1.phase, q.2) →
      bot.Moves e s q r → I q → I r) : Steady s w (p.1.phase, p.2) ∧ I p := by
  have hkept : bot.Path e s (.waiting, w) p ∧ Steady s w (p.1.phase, p.2) ∧ I p :=
    hpath.preserves
      (I := fun q => bot.Path e s (.waiting, w) q ∧ Steady s w (q.1.phase, q.2) ∧ I q)
      (fun _ _ hmove ⟨hpath, hsteady, hq⟩ => ⟨hpath.trans (.single hmove),
        hsteady.step hmove.shift, hstep hpath hsteady hmove hq⟩)
      ⟨.refl _, .start hsound, hstart⟩
  exact hkept.2

/-- A turn is steady from beginning to end. -/
theorem Bot.Path.steady {bot : Bot} {e : Event} {s : Subscriber} {w : World}
    {p : Stage × World} (hpath : bot.Path e s (.waiting, w) p) (hsound : w.conversations.Sound) :
    Steady s w (p.1.phase, p.2) :=
  (hpath.turn_preserves (I := fun _ => True) hsound trivial fun _ _ _ _ => trivial).1

namespace World

variable {s : Subscriber} {w : World}

/-- Whatever happens keeps the store sound. -/
theorem sound_occur (w : World) (o : Occurrence) (h : w.conversations.Sound) :
    (w.occur o).conversations.Sound :=
  occur_induction (I := fun w => w.conversations.Sound) o h (fun _ _ => h) fun hpath =>
    (hpath.steady h).sound

/-- The conversations are sound after every history. -/
theorem sound_after (channels : Channel.Registry) (history : List Occurrence) :
    ((fresh channels).after history).conversations.Sound :=
  after_preserves sound_occur history .empty

/-- A turn that is to start a conversation has a sender without an active one, if no end failed
in it. -/
theorem activeCount_of_starts {bot : Bot} {event : Event} {b : Block} {o : Outcome} {w' : World}
    (hsound : w.conversations.Sound) (hs : event.sender = some s)
    (hrun : bot.untilStart event w = (.ok (.starts b o), w'))
    (hend : .endConversation ∉ w'.failedSince w) : w'.conversations.activeCount s.id = 0 := by
  obtain ⟨s', hs', hid, -⟩ := Bot.sender_detectLanguage event bot.settings.languages hs
  have hpath := Bot.path_untilStart hs' w
  rw [hrun] at hpath
  have hsteady : Steady s' w (.free, w') := hpath.steady hsound
  exact hid ▸ hsteady.free rfl hend

/-- **One active conversation at most.** After every history each subscriber has at most one active
conversation. A turn is what it does up to the start of a conversation, and the start. One that
comes to a start, without the end of a conversation failing in it, comes there with a sender who has
no active one, so that the store takes the new one: it is created, unless the call itself meets a
fault, which then is what the turn fails with. -/
theorem single_active {channels : Channel.Registry} {history : List Occurrence} {w : World}
    (hw : (fresh channels).after history = w) :
    (∀ sender, w.conversations.activeCount sender ≤ 1) ∧
      ∀ (bot : Bot) (event : Event),
        bot.handle event = bot.untilStart event >>=
          bot.conclude (event.detectLanguage bot.settings.languages) ∧
        ∀ s b o w', event.sender = some s →
          bot.untilStart event w = (.ok (.starts b o), w') →
          .endConversation ∉ w'.failedSince w →
          w'.conversations.activeCount s.id = 0 ∧ ∃ r, w'.conversations.create s.id = .ok r ∧
            ((∃ fault,
                bot.outages .createConversation (w'.made .createConversation) = some fault ∧
                (bot.handle event w).1 = .error (.store fault.storeError)) ∨
              bot.createConversation s.id (w'.emitted [.entry .popular b.name]) =
                (.ok r.1, { (w'.emitted [.entry .popular b.name]).counted .createConversation with
                  conversations := r.2 })) := by
  have hsound : w.conversations.Sound := hw ▸ sound_after channels history
  refine ⟨hsound.single, fun bot event => ⟨Bot.handle_eq event, fun s b o w' hs hrun hend => ?_⟩⟩
  have hzero := activeCount_of_starts hsound hs hrun hend
  obtain ⟨c, store, hcreate⟩ := exists_create hzero
  have hreported : (w'.emitted [.entry .popular b.name]).conversations.create s.id =
      .ok (c, store) := hcreate
  refine ⟨hzero, (c, store), hcreate,
    (bot.createConversation_of_create _ hreported).imp_left ?_⟩
  rintro ⟨fault, hfault, hfails⟩
  obtain ⟨s', hs', hid, -⟩ := Bot.sender_detectLanguage event bot.settings.languages hs
  rw [← hid] at hfails
  exact ⟨fault, hfault, congrArg Prod.fst (Bot.handle_of_uncreated hs' hrun hfails)⟩

/-- A conversation that asked again twice ends with the third text that does not fit, and that text
starts another, which is created. -/
theorem single_active_restarted :
    (Bot.untilStart Sample.bot (Sample.saying "hi") (Sample.world ["hi", "hi", "hi"])).1 =
        .ok (.starts Sample.hello (.started "Hello")) ∧
      (Bot.untilStart Sample.bot (Sample.saying "hi")
        (Sample.world ["hi", "hi", "hi"])).2.conversations.activeCount "sub-1" = 0 ∧
      ∃ c, (Bot.createConversation Sample.bot "sub-1" ((Bot.untilStart Sample.bot
        (Sample.saying "hi") (Sample.world ["hi", "hi", "hi"])).2.emitted
          [.entry .popular "Hello"])).1 = .ok c := by
  have hrun : (Bot.untilStart Sample.bot (Sample.saying "hi")
      (Sample.world ["hi", "hi", "hi"])).1 = .ok (.starts Sample.hello (.started "Hello")) := by
    decide +kernel
  have hend : .endConversation ∉ (Bot.untilStart Sample.bot (Sample.saying "hi")
      (Sample.world ["hi", "hi", "hi"])).2.failedSince (Sample.world ["hi", "hi", "hi"]) := by
    decide +kernel
  obtain ⟨-, hturns⟩ := single_active (w := Sample.world ["hi", "hi", "hi"]) rfl
  obtain ⟨-, hstarts⟩ := hturns Sample.bot (Sample.saying "hi")
  obtain ⟨hzero, r, -, ⟨fault, hfault, -⟩ | hcreated⟩ :=
    hstarts Sample.ann _ _ _ rfl (Prod.ext hrun rfl) hend
  · cases hfault
  · exact ⟨hrun, hzero, r.1, congrArg Prod.fst hcreated⟩

end World

end Chatflow
