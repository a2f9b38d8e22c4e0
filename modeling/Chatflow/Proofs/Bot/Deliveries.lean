import Chatflow.Proofs.Bot.History
import Chatflow.Proofs.Bot.Keeping
import Chatflow.Proofs.Widget.Outbox

/-!
# What a turn leaves in an outbox

Every message that a turn sends lies in the outbox of its channel when the turn is over, whatever
comes of the turn: after all that waited there, in the order in which the messages were sent, each
once, and for the sender of the event (`Bot.deposits_handle`).

This is a relation between the world before a turn and the world after it, and so are other
properties of what a turn does to its channel. What they need is the same (`Bot.Tracks`): only
`Bot.deliver` touches the channels and the journal, so a relation that holds across a delivery, and
where both stay as they are, holds across a turn (`Bot.Tracks.handle`).
-/

namespace Chatflow

/-! ### Relations across turns -/

namespace World

/-- The channels and the journal stay as they are. -/
structure Still (w w' : World) : Prop where
  channels : w'.channels = w.channels
  journal : w'.journal = w.journal

end World

namespace Bot

/-- A relation holds across all that a turn on an event of a subscriber may do. -/
structure Tracks (bot : Bot) (e : Event) (s : Subscriber) (R : World → World → Prop) : Prop where
  /-- The subscriber is the sender. -/
  sender : e.sender = some s
  /-- It holds where the channels and the journal stay as they are. -/
  still : ∀ {w w' : World}, w.Still w' → R w w'
  /-- It holds across two things if it does across each. -/
  trans : ∀ {w₁ w₂ w₃ : World}, R w₁ w₂ → R w₂ w₃ → R w₁ w₃
  /-- It holds across a delivery to the sender. -/
  deliver : ∀ x : Sent, x.channel = e.channel → x.recipient = s.foreignId →
    Keeps R (bot.deliver e x)

namespace Tracks

variable {bot : Bot} {e : Event} {s : Subscriber} {R : World → World → Prop} {α : Type}

section

variable (t : bot.Tracks e s R)

include t

theorem of_still {x : World → α × World} (h : ∀ w : World, w.Still (x w).2) : Keeps R x :=
  fun w => t.still (h w)

/-- A call that writes to the conversations. -/
theorem ask_write {σ : Type} {call : Call} (act : World → Except StoreError σ) (give : σ → α)
    (store : σ → ConversationStore) :
    Keeps R (bot.ask call fun w =>
      act w >>= fun r => Pure.pure (give r, { w with conversations := store r })) := by
  refine t.of_still fun w => ?_
  obtain ⟨err, h⟩ | ⟨r, -, h⟩ := bot.ask_write w call act give
    fun w r => { w with conversations := store r }
  · rw [h]
    exact ⟨rfl, rfl⟩
  · rw [h]
    exact ⟨rfl, rfl⟩

theorem createConversation (sender : String) : Keeps R (bot.createConversation sender) :=
  t.ask_write (fun w => w.conversations.create sender) (·.1) (·.2)

theorem updateConversation (c : Conversation) : Keeps R (bot.updateConversation c) :=
  t.ask_write (fun w => w.conversations.update c) (fun _ => ()) id

theorem endConversation (id : String) : Keeps R (bot.endConversation id) :=
  t.ask_write (fun w => w.conversations.finish id) (fun _ => ()) fun store => store

/-- It holds across all that is done to send a message. -/
theorem carries : bot.Carries e R where
  rests h := t.still ⟨h.channels, h.journal⟩
  trans := t.trans
  deliver x s' hs' hchannel hrecipient := by
    obtain rfl : s = s' := Option.some.inj (t.sender.symm.trans hs')
    exact t.deliver x hchannel hrecipient

/-- It holds across all that is done in a conversation. -/
theorem follows (c : Conversation) : bot.Follows e c R where
  toCarries := t.carries
  stand _ _ := t.updateConversation _
  ended := t.endConversation

/-- The sender is known. -/
theorem requireSender_bind {f : Subscriber → Attempt α} (hf : Keeps R (f s)) :
    Keeps R (e.requireSender >>= f) :=
  t.carries.requireSender_bind fun s' hs' => by
    obtain rfl : s = s' := Option.some.inj (t.sender.symm.trans hs')
    exact hf

/-! ### Turns -/

variable {b : Block} {c : Conversation}

theorem finish (error : Option String) : Keeps R (bot.finish c error) :=
  (t.follows c).finish c error

theorem enter (permanent : Bool) : Keeps R (bot.enter e b permanent c) := by
  have r := t.carries
  have hstore (c : Conversation) : Keeps R (keeping c (bot.updateConversation c) >>= fun _ =>
      Pure.pure c) := r.bind (.adapt (t.updateConversation c)) fun _ => r.pure c
  unfold Bot.enter
  simp only [t.sender]
  split
  · exact r.bind (.adapt (r.updateVars _ _)) fun _ => hstore _
  · exact hstore _

theorem advance (b : Block) (fallback : Bool) (c : Conversation) :
    Keeps R (bot.advance e b fallback c) :=
  t.carries.bind (t.enter _) fun c => t.carries.bind (.lift (t.carries.emit _)) fun _ =>
    (t.follows c).trigger

theorem begin : Keeps R (bot.begin e b c) :=
  t.carries.bind (t.enter _) fun c => (t.follows c).trigger

theorem countAttempt (fallback : Bool) (c : Conversation) :
    Keeps R (countAttempt fallback c) := t.of_still fun w => by
  rw [Bot.countAttempt]
  split <;> exact ⟨rfl, rfl⟩

theorem proceed (b : Block) (fallback : Bool) (c : Conversation) :
    Keeps R (bot.proceed e b fallback c) := by
  intro w
  have hadvance := t.trans (t.countAttempt fallback c w)
    (t.advance b fallback (Bot.countAttempt fallback c w).1 _)
  rw [proceed_apply]
  generalize bot.advance e b fallback (Bot.countAttempt fallback c w).1
    (Bot.countAttempt fallback c w).2 = run at hadvance
  obtain ⟨⟨err, c'⟩ | c', w'⟩ := run
  · exact t.trans hadvance (t.finish _ w')
  · exact hadvance

theorem start : Keeps R (bot.start e b) := by
  intro w
  have hcreate := t.trans (t.carries.emit (.entry .popular b.name) w)
    (t.createConversation s.id _)
  rw [start_apply t.sender]
  rw [emit_snd] at hcreate
  generalize bot.createConversation s.id (w.emitted [.entry .popular b.name]) = run at hcreate
  obtain ⟨err | c, w'⟩ := run
  · exact hcreate
  have hbegin := t.trans (t.trans hcreate (t.carries.emit (.count .newConversations) w'))
    (t.begin (b := b) (c := c) _)
  rw [emit_snd] at hbegin
  dsimp only
  generalize bot.begin e b c (w'.emitted [.count .newConversations]) = run at hbegin
  obtain ⟨⟨err, c'⟩ | c', w''⟩ := run
  · exact t.trans hbegin (t.finish _ w'')
  · exact hbegin

theorem answer : Keeps R (bot.answer e c) := by
  intro w
  have hfind : Keeps R (bot.findNext e c) :=
    t.carries.bind (t.carries.findBlocks _) fun _ => t.carries.pure _
  have hfound := hfind w
  rw [answer_apply]
  generalize bot.findNext e c w = run at hfound
  obtain ⟨err | _ | found, w'⟩ := run
  · exact t.trans hfound (t.finish _ w')
  · cases if c.asksAgain then c.askingBlock? else none with
    | some b => exact t.trans hfound (t.proceed b true c w')
    | none => exact t.trans hfound (t.finish _ w')
  · exact t.trans hfound (t.proceed found.block false c w')

theorem continueActive : Keeps R (bot.continueActive e) := by
  have r := t.carries
  have hfind : Keeps R (bot.findActive s.id) := r.ask_read fun w => w.conversations.active? s.id
  refine t.requireSender_bind <| r.bind hfind fun active => ?_
  cases active with
  | none => exact r.pure _
  | some c =>
    refine r.bind t.answer fun handled => ?_
    cases handled with
    | false => exact r.pure _
    | true => exact r.bind (.lift (r.emit _)) fun _ => r.pure _

theorem sayFallback : Keeps R (bot.sayFallback e) := by
  unfold Bot.sayFallback
  split
  · exact t.carries.pure _
  · exact t.carries.bind (t.carries.send _ _ _ _) fun _ => t.carries.pure _

theorem fallBack : Keeps R (bot.fallBack e) := by
  have r := t.carries
  unfold Bot.fallBack
  split
  · exact r.pure _
  refine t.requireSender_bind <| r.bind (.lift (r.emit _)) fun _ => ?_
  cases bot.settings.fallbackBlock with
  | none => exact t.sayFallback
  | some id =>
    have hfind : Keeps R (bot.findBlock id) := r.ask_read fun _ => bot.blocks.find? id
    refine r.bind hfind fun found => ?_
    cases found with
    | none => exact t.sayFallback
    | some b => exact r.bind t.start fun _ => r.pure _

end

/-- **A relation that holds across deliveries holds across a turn.** -/
theorem handle {event : Event} (t : bot.Tracks (event.detectLanguage bot.settings.languages) s R) :
    Keeps R (bot.handle event) := by
  intro w
  cases hsender : event.sender with
  | none =>
    rw [handle_unsent hsender]
    exact t.still ⟨rfl, rfl⟩
  | some s' =>
    have r := t.carries
    rw [Bot.handle, run_bind_ok (run_requireSender hsender w)]
    refine r.bind t.continueActive (fun continued => ?_) w
    cases continued with
    | true => exact r.pure _
    | false =>
      have hfind : Keeps R bot.findStarting := r.ask_read fun _ => bot.blocks.starting
      refine r.bind hfind fun starting => ?_
      split
      · exact r.bind t.start fun _ => r.pure _
      · exact t.fallBack

end Tracks

end Bot

/-! ### What was sent waits -/

/-- A delivery is what a message is handed over as, under an id. -/
structure Widget.Delivery.Is (d : Widget.Delivery) (x : Sent) (mid : String) : Prop where
  /-- It is for the recipient of the message. -/
  recipient : d.recipient = x.recipient
  /-- The typing sign is shown for as long as it should be. -/
  typing : d.typing = x.options.typing
  /-- It is the view of the message, said by the bot. -/
  message : ∃ v, Widget.view x.envelope = .ok v ∧
    d.message = ⟨v.type, v.data, mid, Widget.botAuthor, x.options.assignTo.isSome⟩

/-- Some deliveries are what some messages are handed over as, one for each and in their order; so
many messages were sent before. -/
inductive HandedOver : Nat → List Sent → List Widget.Delivery → Prop
  | nil (n : Nat) : HandedOver n [] []
  | cons {n : Nat} {x : Sent} {sent : List Sent} {d : Widget.Delivery}
      {ds : List Widget.Delivery} (hd : d.Is x (World.messageId n))
      (h : HandedOver (n + 1) sent ds) : HandedOver n (x :: sent) (d :: ds)

namespace HandedOver

variable {n : Nat} {sent sent' : List Sent} {ds ds' : List Widget.Delivery}

theorem append (h : HandedOver n sent ds) (h' : HandedOver (n + sent.length) sent' ds') :
    HandedOver n (sent ++ sent') (ds ++ ds') := by
  induction h with
  | nil => exact h'
  | @cons n x sent d ds hd _ ih =>
    refine .cons hd (ih ?_)
    rwa [Nat.add_assoc, Nat.add_comm 1]

/-- What is handed over is for the recipients of the messages. -/
theorem recipient {whom : String} (h : HandedOver n sent ds)
    (hsent : ∀ x ∈ sent, x.recipient = whom) : ∀ d ∈ ds, d.recipient = whom := by
  induction h with
  | nil => exact List.forall_mem_nil _
  | cons hd _ ih =>
    intro d' hd'
    obtain rfl | hd' := List.mem_cons.mp hd'
    · exact hd.recipient.trans (hsent _ List.mem_cons_self)
    · exact ih (fun x hx => hsent x (List.mem_cons_of_mem _ hx)) d' hd'

end HandedOver

/-- What is sent in a turn lies at the end of the outbox of a channel, for somebody. -/
def World.Deposits (channel whom : String) (w w' : World) : Prop :=
  ∃ sent, w'.journal = w.journal ++ sent ∧
    (∀ x ∈ sent, x.channel = channel ∧ x.recipient = whom) ∧
    ∀ o, w.channels.find? channel = some (.widget o) →
      ∃ ds, w'.channels.find? channel = some (.widget (o ++ ds)) ∧
        HandedOver w.journal.length sent ds

namespace World.Deposits

variable {channel whom : String} {w w₁ w₂ w₃ : World}

theorem of_still {w' : World} (h : w.Still w') : w.Deposits channel whom w' := by
  refine ⟨[], by rw [h.journal, List.append_nil], List.forall_mem_nil _,
    fun o ho => ⟨[], ?_, .nil _⟩⟩
  rw [h.channels, ho, List.append_nil]

theorem trans (h : w₁.Deposits channel whom w₂) (h' : w₂.Deposits channel whom w₃) :
    w₁.Deposits channel whom w₃ := by
  obtain ⟨sent, hjournal, hsent, hlies⟩ := h
  obtain ⟨sent', hjournal', hsent', hlies'⟩ := h'
  refine ⟨sent ++ sent', by rw [hjournal', hjournal, List.append_assoc], fun x hx => ?_,
    fun o ho => ?_⟩
  · exact (List.mem_append.mp hx).elim (hsent x) (hsent' x)
  · obtain ⟨ds, hds, hhanded⟩ := hlies o ho
    obtain ⟨ds', hds', hhanded'⟩ := hlies' _ hds
    rw [hjournal, List.length_append] at hhanded'
    exact ⟨ds ++ ds', by rw [hds', List.append_assoc], hhanded.append hhanded'⟩

end World.Deposits

namespace Bot

variable {bot : Bot} {e : Event} {s : Subscriber}

/-- **A delivery puts the message at the end of the outbox**, or changes nothing there. -/
theorem deposits_deliver (hs : e.sender = some s) {x : Sent} (hx : x.channel = e.channel)
    (hrecipient : x.recipient = s.foreignId) :
    Keeps (World.Deposits e.channel s.foreignId) (bot.deliver e x) := by
  intro w
  have hwhom : Widget.recipient e = .ok s.foreignId := by rw [Widget.recipient, hs]
  rw [← hx, ← hrecipient]
  unfold deliver
  cases hchannel : w.channels.find? x.channel with
  | none => exact World.Deposits.of_still ⟨rfl, rfl⟩
  | some channel =>
    cases channel with
    | recorder =>
      simp only
      split
      · exact World.Deposits.of_still ⟨rfl, rfl⟩
      · refine ⟨[x], rfl, List.forall_mem_singleton.mpr ⟨rfl, rfl⟩, fun o ho => ?_⟩
        rw [hchannel] at ho
        cases ho
    | widget outbox =>
      simp only
      obtain ⟨cause, -, hd⟩ | ⟨shown, whom, hshown, hwhom', hd⟩ :=
        Widget.Outbox.delivery_error_or_ok e x.envelope x.options w.nextMessageId
      · rw [hd]
        exact World.Deposits.of_still ⟨rfl, rfl⟩
      · rw [hd]
        refine ⟨[x], rfl, List.forall_mem_singleton.mpr ⟨rfl, rfl⟩, fun o ho => ?_⟩
        rw [hchannel] at ho
        cases ho
        obtain rfl : whom = x.recipient := by
          rw [hrecipient]
          exact Except.ok.inj (hwhom'.symm.trans hwhom)
        exact ⟨_, Dict.find?_insert_self _ _ _, .cons ⟨rfl, rfl, shown, hshown, rfl⟩ (.nil _)⟩

/-- **What a turn sends lies in the outbox when it is over**, whatever comes of it. -/
theorem deposits_handle {event : Event} (hs : event.sender = some s) :
    Keeps (World.Deposits event.channel s.foreignId) (bot.handle event) := by
  obtain ⟨language, hs'⟩ := exists_sender_detectLanguage event bot.settings.languages hs
  rw [← channel_detectLanguage event bot.settings.languages]
  exact Tracks.handle ⟨hs', World.Deposits.of_still, World.Deposits.trans,
    fun _ hx hrecipient => deposits_deliver hs' hx hrecipient⟩

end Bot

end Chatflow
