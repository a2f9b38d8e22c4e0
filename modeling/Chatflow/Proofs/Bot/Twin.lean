import Chatflow.Proofs.Bot.InStep
import Chatflow.Proofs.Bot.Shift
import Chatflow.Proofs.Bot.Simulation

/-!
# One turn in two worlds

A `Twin` is a turn that is run twice, in worlds that are in step. Each function that a turn is made
of keeps them in step and gives the same result in both, but for the ids of conversations; the
lemmas here follow the functions of a turn one by one, and `Twin.handle` is the last of them. They
are put together by `Twin.Meets.bind`.

No call may fail, as failures are counted across turns, and executors must not look at the id of
the conversation (`Bot.Impartial`). The numbers by which texts are chosen are given for the turn
(`Bot.drawing`).
-/

namespace Chatflow

open ConversationStore

namespace Bot

/-- No call fails, and executors do not look at the id of the conversation. -/
structure Impartial (bot : Bot) : Prop where
  /-- No call fails. -/
  up : ∀ call earlier, bot.outages call earlier = none
  /-- Executors do not look at the id of the conversation. -/
  executors : ∀ name execute, bot.executors.find? name = some execute →
    ∀ b c conversation conversation', execute b c conversation = execute b c conversation'

/-- The bot that chooses its texts by the given numbers, of which the first is drawn in a world. -/
def drawing (bot : Bot) (rolls : Nat → Nat) (w : World) : Bot :=
  { bot with rolls := fun drawn => rolls (drawn - w.drawn) }

end Bot

/-- A turn that is run in two worlds. -/
structure Twin where
  /-- The bot. -/
  bot : Bot
  /-- The numbers by which it chooses its texts. -/
  rolls : Nat → Nat
  /-- The event that is answered. -/
  event : Event
  /-- Its sender. -/
  sender : Subscriber
  /-- How the ids of conversations in one world are those in the other. -/
  ids : Equiv.Perm String
  /-- One world as the turn begins. -/
  left : World
  /-- The other world. -/
  right : World
  /-- The bot is impartial. -/
  impartial : bot.Impartial
  /-- The sender is known. -/
  known : event.sender = some sender
  /-- The ids of the conversations to be created correspond. -/
  next : ids (idAfter left.conversations.created) = idAfter right.conversations.created

namespace Twin

variable (t : Twin)

/-- The bot in one world. -/
def bot₁ : Bot := t.bot.drawing t.rolls t.left

/-- The bot in the other world. -/
def bot₂ : Bot := t.bot.drawing t.rolls t.right

/-- Whose turn it is. -/
def party : Party := .of t.event t.sender

/-- The worlds are in step after some conversations were created. -/
def InStep (n : Nat) (w₁ w₂ : World) : Prop :=
  World.Core.InStep t.party t.ids t.left.core t.right.core n w₁.core w₂.core

/-- A conversation is in hand. -/
def Holds (w : World) (c : Conversation) : Prop := w.core.Holds t.party c

/-- Two runs end in worlds that are in step, with errors or results that are related. -/
inductive Meets {ε α : Type} (n : Nat) (E : World → ε → ε → Prop) (R : World → α → α → Prop) :
    Except ε α × World → Except ε α × World → Prop
  | error {w₁ w₂ : World} {x₁ x₂ : ε} (h : t.InStep n w₁ w₂) (hx : E w₁ x₁ x₂) :
      Meets n E R (.error x₁, w₁) (.error x₂, w₂)
  | ok {w₁ w₂ : World} {a₁ a₂ : α} (h : t.InStep n w₁ w₂) (ha : R w₁ a₁ a₂) :
      Meets n E R (.ok a₁, w₁) (.ok a₂, w₂)

/-- The same in both worlds. -/
def Same {α : Type} (_ : World) (a₁ a₂ : α) : Prop := a₂ = a₁

/-- The same conversation in both worlds, in hand. -/
def Kept (w : World) (c₁ c₂ : Conversation) : Prop := c₂ = c₁.renamed t.ids ∧ t.Holds w c₁

/-- The same error in both worlds, with a conversation in hand. -/
def Dropped (w : World) (x₁ x₂ : BotError × Conversation) : Prop :=
  x₂.1 = x₁.1 ∧ t.Kept w x₁.2 x₂.2

variable {t} {n : Nat} {w₁ w₂ : World} {c : Conversation} {ε α β : Type}
  {E : World → ε → ε → Prop} {R : World → α → α → Prop}

/-- What goes on after a computation keeps to what is known of its result. -/
theorem Meets.bind {x₁ x₂ : ExceptT ε Turn α} {f₁ f₂ : α → ExceptT ε Turn β}
    {R' : World → β → β → Prop} (hx : t.Meets n E R (x₁ w₁) (x₂ w₂))
    (hf : ∀ {w₁ w₂ a₁ a₂}, t.InStep n w₁ w₂ → R w₁ a₁ a₂ →
      t.Meets n E R' (f₁ a₁ w₁) (f₂ a₂ w₂)) :
    t.Meets n E R' ((x₁ >>= f₁) w₁) ((x₂ >>= f₂) w₂) := by
  rw [run_bind, run_bind]
  generalize x₁ w₁ = r₁, x₂ w₂ = r₂ at hx
  cases hx with
  | error h hx => exact .error h hx
  | ok h ha => exact hf h ha

theorem Meets.of_eq {r₁ r₂ : Except ε α × World} (hr : r₂.1 = r₁.1) (h : t.InStep n r₁.2 r₂.2) :
    t.Meets n Same Same r₁ r₂ := by
  obtain ⟨r₂, w₂⟩ := r₂
  obtain rfl : r₂ = r₁.1 := hr
  obtain ⟨x₁ | a₁, w₁⟩ := r₁
  · exact .error h rfl
  · exact .ok h rfl

/-- A call that is made with a conversation in hand keeps it, or drops it. -/
theorem Meets.keeping {x₁ x₂ : Attempt α} (hx : t.Meets n Same R (x₁ w₁) (x₂ w₂))
    (hc : t.Holds (x₁ w₁).2 c) :
    t.Meets n t.Dropped (fun w a₁ a₂ => R w a₁ a₂ ∧ t.Holds w c)
      (Bot.keeping c x₁ w₁) (Bot.keeping (c.renamed t.ids) x₂ w₂) := by
  rw [Bot.keeping, Bot.keeping, run_adapt, run_adapt]
  generalize x₁ w₁ = r₁, x₂ w₂ = r₂ at hx hc
  cases hx with
  | error h hx => exact .error h ⟨hx, rfl, hc⟩
  | ok h ha => exact .ok h ⟨ha, hc⟩

theorem Meets.mono {R' : World → α → α → Prop} {r₁ r₂ : Except ε α × World}
    (hr : t.Meets n E R r₁ r₂) (h : ∀ w a₁ a₂, R w a₁ a₂ → R' w a₁ a₂) : t.Meets n E R' r₁ r₂ := by
  cases hr with
  | error hstep hx => exact .error hstep hx
  | ok hstep ha => exact .ok hstep (h _ _ _ ha)

/-- What is done after a computation that cannot fail. -/
theorem Meets.of_lift {R : World → β → β → Prop} {x₁ x₂ : Turn α}
    {f₁ f₂ : α → ExceptT ε Turn β}
    (h : t.Meets n E R (f₁ (x₁ w₁).1 (x₁ w₁).2) (f₂ (x₂ w₂).1 (x₂ w₂).2)) :
    t.Meets n E R (((liftM x₁ : ExceptT ε Turn α) >>= f₁) w₁)
      (((liftM x₂ : ExceptT ε Turn α) >>= f₂) w₂) := h

/-- Telemetry is on record only. -/
theorem InStep.emitted (h : t.InStep n w₁ w₂) (es₁ es₂ : List Telemetry.Event) :
    t.InStep n (w₁.emitted es₁) (w₂.emitted es₂) := h

/-- So are the numbers of calls. -/
theorem InStep.counted (h : t.InStep n w₁ w₂) (call : Call) :
    t.InStep n (w₁.counted call) (w₂.counted call) := h

/-! ### Calls -/

theorem up₁ {call : Call} : ∀ earlier, t.bot₁.outages call earlier = none := t.impartial.up call

theorem up₂ {call : Call} : ∀ earlier, t.bot₂.outages call earlier = none := t.impartial.up call

/-- A conversation stays in hand while the conversations are left alone. -/
theorem Holds.of_eq {w : World} (hc : t.Holds w₁ c) (h : w.conversations = w₁.conversations) :
    t.Holds w c := by
  obtain ⟨r, hr⟩ := hc.record
  refine ⟨⟨r, ?_⟩, hc.own⟩
  rw [World.core, h]
  exact hr

section Calls

variable {E : World → BotError → BotError → Prop}

/-- A call that reads the same in both worlds. -/
theorem reads (h : t.InStep n w₁ w₂) {call : Call} {f₁ f₂ : World → α}
    (hr : R (w₁.counted call) (f₁ (w₁.counted call)) (f₂ (w₂.counted call))) :
    t.Meets n E R (t.bot₁.ask call (fun w => .ok (f₁ w, w)) w₁)
      (t.bot₂.ask call (fun w => .ok (f₂ w, w)) w₂) := by
  rw [Bot.ask_read_of_never _ _ up₁, Bot.ask_read_of_never _ _ up₂]
  exact .ok h hr

/-- The active conversation of the sender is taken in hand. -/
theorem findActive (h : t.InStep n w₁ w₂) :
    t.Meets n E (fun w a₁ a₂ => a₂ = a₁.map (·.renamed t.ids) ∧ ∀ c, a₁ = some c → t.Holds w c)
      (t.bot₁.findActive t.sender.id w₁) (t.bot₂.findActive t.sender.id w₂) := by
  have hactive := World.Core.InStep.active?_renamed h
  refine reads h ⟨hactive, fun c hc => ?_⟩
  exact World.Core.InStep.holds_of_active? h hc

theorem findBlock (h : t.InStep n w₁ w₂) (id : String) :
    t.Meets n E Same (t.bot₁.findBlock id w₁) (t.bot₂.findBlock id w₂) := reads h rfl

theorem findStarting (h : t.InStep n w₁ w₂) :
    t.Meets n E Same (t.bot₁.findStarting w₁) (t.bot₂.findStarting w₂) := reads h rfl

/-- A change to the sender is made, or refused. -/
theorem modify (h : t.InStep n w₁ w₂) (call : Call) (change : Subscriber → Subscriber) :
    t.Meets n Same Same
      (t.bot₁.ask call (fun w => w.subscribers.modify t.sender.id change >>= fun r =>
        pure ((), { w with subscribers := r.2 })) w₁)
      (t.bot₂.ask call (fun w => w.subscribers.modify t.sender.id change >>= fun r =>
        pure ((), { w with subscribers := r.2 })) w₂) := by
  have hrun : ∀ bot : Bot, (∀ earlier, bot.outages call earlier = none) → ∀ w : World, _ :=
    fun bot hup w => Bot.ask_write_of_never bot w hup
      (fun w => w.subscribers.modify t.sender.id change) (fun _ => ())
      fun w r => { w with subscribers := r.2 }
  obtain ⟨cause, h₁, h₂⟩ | ⟨r, s₁, s₂, h₁, h₂, hstep⟩ := World.Core.InStep.modify h change
  · rw [(hrun _ up₁ w₁).1 cause h₁, (hrun _ up₂ w₂).1 cause h₂]
    exact .error h rfl
  · rw [(hrun _ up₁ w₁).2 _ h₁, (hrun _ up₂ w₂).2 _ h₂]
    exact .ok hstep rfl

end Calls

/-- Some blocks are read with a conversation in hand. -/
theorem findBlocks (h : t.InStep n w₁ w₂) (hc : t.Holds w₁ c) (ids : List String) :
    t.Meets n t.Dropped (fun w a₁ a₂ => a₂ = a₁ ∧ t.Holds w c)
      (Bot.keeping c (t.bot₁.findBlocks ids) w₁)
      (Bot.keeping (c.renamed t.ids) (t.bot₂.findBlocks ids) w₂) := by
  rw [Bot.keeping, Bot.keeping, run_adapt, run_adapt, Bot.findBlocks, Bot.findBlocks,
    Bot.ask_read_of_never _ _ up₁, Bot.ask_read_of_never _ _ up₂]
  exact .ok h ⟨rfl, hc⟩

/-- A conversation in hand is written. -/
theorem updateConversation (h : t.InStep n w₁ w₂) (hc : t.Holds w₁ c) :
    t.Meets n t.Dropped (fun w _ _ => t.Holds w c)
      (Bot.keeping c (t.bot₁.updateConversation c) w₁)
      (Bot.keeping (c.renamed t.ids) (t.bot₂.updateConversation (c.renamed t.ids)) w₂) := by
  obtain ⟨s₁, s₂, hs₁, hs₂, hstep, hheld⟩ := World.Core.InStep.update h hc
  have hrun₁ := (Bot.updateConversation_of_never w₁ (up₁ (t := t)) c).2 s₁ hs₁
  have hrun₂ := (Bot.updateConversation_of_never w₂ (up₂ (t := t)) (c.renamed t.ids)).2 s₂ hs₂
  rw [Bot.keeping, Bot.keeping, run_adapt, run_adapt, hrun₁, hrun₂]
  exact .ok hstep hheld

/-- A conversation in hand is ended. -/
theorem finish (h : t.InStep n w₁ w₂) (hc : t.Holds w₁ c) (error : Option String) :
    t.InStep n (t.bot₁.finish c error w₁).2 (t.bot₂.finish (c.renamed t.ids) error w₂).2 := by
  obtain ⟨s₁, s₂, hs₁, hs₂, hstep⟩ := World.Core.InStep.finish h hc
  rw [Bot.finish_snd, Bot.finish_snd,
    (Bot.endConversation_of_never (w₁.emitted _) up₁ _).2 s₁ hs₁,
    (Bot.endConversation_of_never (w₂.emitted _) up₂ _).2 s₂ hs₂]
  exact hstep

/-- A conversation is created for the sender in both worlds, or in none. -/
theorem createConversation (h : t.InStep 0 w₁ w₂) :
    (∃ err v₁ v₂, t.bot₁.createConversation t.sender.id w₁ = (.error err, v₁) ∧
        t.bot₂.createConversation t.sender.id w₂ = (.error err, v₂) ∧ t.InStep 0 v₁ v₂) ∨
      ∃ c v₁ v₂, t.bot₁.createConversation t.sender.id w₁ = (.ok c, v₁) ∧
        t.bot₂.createConversation t.sender.id w₂ = (.ok (c.renamed t.ids), v₂) ∧
        t.InStep 1 v₁ v₂ ∧ t.Holds v₁ c := by
  obtain ⟨cause, h₁, h₂⟩ | ⟨c, s₁, s₂, h₁, h₂, hstep, hc⟩ := World.Core.InStep.create h t.next
  · exact .inl ⟨_, _, _, (Bot.createConversation_of_never w₁ up₁ _).1 cause h₁,
      (Bot.createConversation_of_never w₂ up₂ _).1 cause h₂, h⟩
  · exact .inr ⟨c, _, _, (Bot.createConversation_of_never w₁ up₁ _).2 _ h₁,
      (Bot.createConversation_of_never w₂ up₂ _).2 _ h₂, hstep, hc⟩

end Twin

/-! ### Sending -/

/-- Executors that do not look at the id of the conversation are the only ones to whom it is
shown. -/
theorem Renderer.process_of_impartial {r : Renderer}
    (h : ∀ name execute, r.executors.find? name = some execute →
      ∀ b c conversation conversation', execute b c conversation = execute b c conversation')
    (b : Block) (c : Context) (vars : Dict Json) (fallback : Bool)
    (conversation conversation' : Option String) (roll : Nat) :
    r.process b c vars fallback conversation roll =
      r.process b c vars fallback conversation' roll := by
  have hmessage : r.message b c vars conversation roll = r.message b c vars conversation' roll := by
    unfold message
    cases b.message with
    | plugin name args =>
      cases hexecute : r.executors.find? name with
      | none => simp only [hexecute]
      | some execute => simp only [hexecute, h name execute hexecute b c conversation conversation']
    | _ => rfl
  unfold process
  split
  · rfl
  · exact hmessage

/-- What is put in an outbox depends on the id of the message in nothing else. -/
theorem Widget.Outbox.delivery_cases {e : Chatflow.Event} {s : Subscriber}
    (hs : e.sender = some s) (envelope : Envelope) (options : SendOptions) :
    (∃ cause, ∀ mid, delivery e envelope options mid = .error cause) ∨
      ∃ (d : Delivery) (overflow : Bool), d.recipient = s.foreignId ∧
        ∀ mid, delivery e envelope options mid =
          .ok ({ d with message := { d.message with mid := mid } }, overflow) := by
  have hwhom : recipient e = .ok s.foreignId := by
    rw [recipient, hs]
  cases hview : view envelope with
  | error cause =>
    refine .inl ⟨cause, fun mid => ?_⟩
    rw [delivery, hview]
    rfl
  | ok shown =>
    refine .inr ⟨⟨s.foreignId, options.typing,
      ⟨shown.type, shown.data, "", botAuthor, options.assignTo.isSome⟩⟩, shown.overflow, rfl,
      fun mid => ?_⟩
    rw [delivery, hview, hwhom]
    rfl

namespace Bot

variable {bot : Bot} {e : Event} {x : Sent} {w : World} {outbox : Widget.Outbox}

/-- What cannot be shown is not delivered to a widget. -/
theorem deliver_of_error (h : w.channels.find? x.channel = some (.widget outbox))
    {cause : ChannelError}
    (hd : Widget.Outbox.delivery e x.envelope x.options w.nextMessageId = .error cause) :
    bot.deliver e x w = (.error (.channel cause), w.failed .send) := by
  simp only [deliver, h, hd]

/-- What can be shown is put in the outbox of a widget. -/
theorem deliver_of_ok (h : w.channels.find? x.channel = some (.widget outbox))
    {d : Widget.Delivery} {overflow : Bool}
    (hd : Widget.Outbox.delivery e x.envelope x.options w.nextMessageId = .ok (d, overflow)) :
    bot.deliver e x w =
      (.ok w.nextMessageId, { w with
        channels := w.channels.insert x.channel (.widget (outbox.push d))
        journal := w.journal ++ [x]
        overflowed := w.overflowed || overflow }) := by
  simp only [deliver, h, hd]

end Bot

namespace Twin

variable {t : Twin} {n : Nat} {w₁ w₂ : World} {c : Conversation}

/-- Renderers differ in nothing when no call fails. -/
theorem renderer_eq (w₁ w₂ : World) : t.bot₂.renderer w₂ = t.bot₁.renderer w₁ := by
  simp only [Bot.renderer, up₁, up₂]
  rfl

theorem core_render {bot : Bot} (hup : ∀ earlier, bot.outages .getContent earlier = none)
    (b : Block) (c : Context) (vars : Dict Json) (fallback : Bool) (conversation : Option String)
    (w : World) :
    (bot.render b c vars fallback conversation w).2.core =
      { w.core with drawn := w.drawn + 1 } := by
  change World.core (if _ then _ else _) = _
  split
  · rw [Bot.meet_of_never _ _ hup]
    rfl
  · rfl

theorem render (h : t.InStep n w₁ w₂) (b : Block) (c : Context) (vars : Dict Json)
    (fallback : Bool) (conversation conversation' : Option String) :
    t.Meets n Same Same (t.bot₁.render b c vars fallback conversation w₁)
      (t.bot₂.render b c vars fallback conversation' w₂) := by
  have hresult : ∀ (bot : Bot) (conversation : Option String) (w : World),
      (bot.render b c vars fallback conversation w).1 = ((bot.renderer w).process b c vars fallback
        conversation (bot.rolls w.drawn)).mapError .render := fun _ _ _ => rfl
  -- as many numbers were drawn since the turn began
  have hroll : t.bot₂.rolls w₂.drawn = t.bot₁.rolls w₁.drawn := by
    obtain ⟨k, hk₁, hk₂⟩ := World.Core.InStep.drawn h
    have hk₁ : w₁.drawn = t.left.drawn + k := hk₁
    have hk₂ : w₂.drawn = t.right.drawn + k := hk₂
    change t.rolls (w₂.drawn - t.right.drawn) = t.rolls (w₁.drawn - t.left.drawn)
    rw [hk₁, hk₂, Nat.add_sub_cancel_left, Nat.add_sub_cancel_left]
  refine .of_eq ?_ ?_
  · rw [hresult, hresult, hroll, renderer_eq w₁ w₂,
      Renderer.process_of_impartial t.impartial.executors]
  · rw [InStep, core_render up₁, core_render up₂]
    exact World.Core.InStep.draw h

theorem deliver (h : t.InStep n w₁ w₂) (x₁ x₂ : Sent) (hx₁ : x₁.channel = t.event.channel)
    (hx₂ : x₂.channel = t.event.channel) (henvelope : x₂.envelope = x₁.envelope)
    (hoptions : x₂.options = x₁.options) :
    t.Meets n Same (fun _ _ _ => True) (t.bot₁.deliver t.event x₁ w₁)
      (t.bot₂.deliver t.event x₂ w₂) := by
  obtain ⟨o₁, o₂, ho₁, ho₂, hpush⟩ := World.Core.InStep.push h
  have hchannel₁ : w₁.channels.find? x₁.channel = some (.widget o₁) := hx₁ ▸ ho₁
  have hchannel₂ : w₂.channels.find? x₂.channel = some (.widget o₂) := hx₂ ▸ ho₂
  obtain ⟨cause, herror⟩ | ⟨d, overflow, hrecipient, hok⟩ :=
    Widget.Outbox.delivery_cases t.known x₁.envelope x₁.options
  · rw [Bot.deliver_of_error hchannel₁ (herror _),
      Bot.deliver_of_error hchannel₂ (by rw [henvelope, hoptions]; exact herror _)]
    exact .error h rfl
  · rw [Bot.deliver_of_ok hchannel₁ (hok _),
      Bot.deliver_of_ok hchannel₂ (by rw [henvelope, hoptions]; exact hok _)]
    refine .ok ?_ trivial
    have hstep := hpush { d with message := { d.message with mid := w₁.nextMessageId } }
      { d with message := { d.message with mid := w₂.nextMessageId } } rfl hrecipient
    rw [hx₁, hx₂]
    exact hstep

theorem send (h : t.InStep n w₁ w₂) (b : Block) (c : Context) (fallback : Bool)
    (conversation conversation' : Option String) :
    t.Meets n Same (fun _ _ _ => True) (t.bot₁.send t.event b c fallback conversation w₁)
      (t.bot₂.send t.event b c fallback conversation' w₂) := by
  rw [Bot.send_eq, Bot.send_eq, run_bind_ok (Bot.run_requireSender t.known _),
    run_bind_ok (Bot.run_requireSender t.known _)]
  refine (render h b c t.sender.vars fallback conversation conversation').bind ?_
  intro w₁ w₂ _ envelope h hsame
  obtain rfl := hsame
  refine (deliver h (Bot.record t.event t.sender b c fallback conversation envelope)
    (Bot.record t.event t.sender b c fallback conversation' envelope) rfl rfl rfl rfl).bind ?_
  intro w₁ w₂ mid₁ mid₂ h _
  refine Meets.of_lift ?_
  have hreported : t.InStep n (Bot.report mid₁ t.sender b fallback w₁).2
      (Bot.report mid₂ t.sender b fallback w₂).2 := h
  refine (modify hreported .applyUpdates _).bind ?_
  rintro w₁ w₂ ⟨⟩ ⟨⟩ h -
  exact .ok h trivial

/-! ### Steps of a conversation -/

variable {b : Block} {fallback : Bool}

/-- The message of a block is sent with a conversation in hand. -/
theorem say (h : t.InStep n w₁ w₂) (hc : t.Holds w₁ c) (b : Block) (fallback : Bool) :
    t.Meets n t.Dropped (fun w _ _ => t.Holds w c) (t.bot₁.say t.event fallback c b w₁)
      (t.bot₂.say t.event fallback (c.renamed t.ids) b w₂) := by
  have hsends := Bot.send_cases t.bot₁ t.event t.sender b c.context fallback (some c.id) t.known w₁
  have hsent := send h b c.context fallback (some c.id) (some (t.ids c.id))
  exact (hsent.keeping (hc.of_eq hsends.spares.conversations)).mono fun _ _ _ hkept => hkept.2

/-- A conversation that is changed in hand stays in hand. -/
theorem Holds.changed {c' : Conversation} (hc : t.Holds w₁ c) (hid : c'.id = c.id)
    (hactive : c'.active = c.active) (hsender : c'.sender = c.sender) : t.Holds w₁ c' := by
  refine ⟨hid ▸ hc.record, ?_⟩
  rw [isActiveOf, hactive, hsender]
  exact hc.own

/-- The event is taken into the context of a conversation in hand. -/
theorem enter (h : t.InStep n w₁ w₂) (hc : t.Holds w₁ c) (b : Block) (permanent : Bool) :
    t.Meets n t.Dropped t.Kept (t.bot₁.enter t.event b permanent c w₁)
      (t.bot₂.enter t.event b permanent (c.renamed t.ids) w₂) := by
  have hstored : ∀ {w₁ w₂}, t.InStep n w₁ w₂ → t.Holds w₁ c → t.Meets n t.Dropped t.Kept
      ((Bot.keeping { c with context := c.context.fold b t.event } (t.bot₁.updateConversation
        { c with context := c.context.fold b t.event }) >>= fun _ =>
          pure { c with context := c.context.fold b t.event }) w₁)
      ((Bot.keeping { c.renamed t.ids with context := c.context.fold b t.event }
        (t.bot₂.updateConversation
          { c.renamed t.ids with context := c.context.fold b t.event }) >>= fun _ =>
            pure { c.renamed t.ids with context := c.context.fold b t.event }) w₂) := by
    intro w₁ w₂ h hc
    have hc' : t.Holds w₁ { c with context := c.context.fold b t.event } := hc.changed rfl rfl rfl
    refine (updateConversation h hc').bind ?_
    intro w₁ w₂ _ _ h hc
    exact .ok h ⟨rfl, hc⟩
  rw [Bot.enter, Bot.enter]
  generalize hkept : (if permanent then b.permanentCaptures t.event else .empty) = kept
  simp only [t.known, Context.update, hkept]
  cases kept.isEmpty with
  | true => exact hstored h hc
  | false =>
    have hvars : t.Holds (t.bot₁.updateVars t.sender.id kept w₁).2 c := by
      obtain ⟨err, hrun⟩ | ⟨r, -, hrun⟩ := t.bot₁.updateVars_cases w₁ t.sender.id kept
      · rw [hrun]
        exact hc
      · rw [hrun]
        exact hc.of_eq rfl
    exact ((modify h .updateVars _).keeping hvars).bind fun h hkept => hstored h hkept.2

/-- A conversation in hand is stood at a block, or ended. -/
theorem settle (h : t.InStep n w₁ w₂) (hc : t.Holds w₁ c) (b : Block) :
    t.Meets n t.Dropped (fun _ _ _ => True) (t.bot₁.settle b c w₁)
      (t.bot₂.settle b (c.renamed t.ids) w₂) := by
  rw [Bot.settle, Bot.settle]
  split
  · exact .ok (finish h hc none) trivial
  · refine (findBlocks h hc b.nextBlocks).bind ?_
    rintro w₁ w₂ _ found h ⟨rfl, hc⟩
    have hc' : t.Holds w₁ { c with current := some b, next := found } := hc.changed rfl rfl rfl
    refine (updateConversation h hc').bind ?_
    intro w₁ w₂ _ _ h _
    exact .ok h trivial

/-- What is attached is looked up. -/
theorem lookUp (h : t.InStep n w₁ w₂) {x₁ x₂ : Step}
    (hx : t.InStep n (w₁.counted .findBlock) (w₂.counted .findBlock) →
      t.Meets n t.Dropped R (x₁ (w₁.counted .findBlock)) (x₂ (w₂.counted .findBlock))) :
    t.Meets n t.Dropped R (t.bot₁.lookUp c x₁ w₁) (t.bot₂.lookUp (c.renamed t.ids) x₂ w₂) := by
  rw [Bot.lookUp, Bot.lookUp, run_lift_bind, run_lift_bind, Bot.meet_of_never _ _ up₁,
    Bot.meet_of_never _ _ up₂]
  exact hx h

theorem walk (chain : Chain) (fallback : Bool) :
    ∀ {w₁ w₂}, t.InStep n w₁ w₂ → t.Holds w₁ c → t.Meets n t.Dropped (fun _ _ _ => True)
      (t.bot₁.walk t.event fallback c chain w₁)
      (t.bot₂.walk t.event fallback (c.renamed t.ids) chain w₂) := by
  induction chain with
  | last b =>
    intro w₁ w₂ h hc
    exact (say h hc b fallback).bind fun h hc => settle h hc b
  | missing b attached | cycle b attached =>
    intro w₁ w₂ h hc
    refine (say h hc b fallback).bind fun h hc => lookUp h fun h => ?_
    exact .ok (finish h hc _) trivial
  | link b rest ih =>
    intro w₁ w₂ h hc
    exact (say h hc b fallback).bind fun h hc => lookUp h fun h => ih h hc

theorem trigger (h : t.InStep n w₁ w₂) (hc : t.Holds w₁ c) (b : Block) (fallback : Bool) :
    t.Meets n t.Dropped (fun _ _ _ => True) (t.bot₁.trigger t.event b fallback c w₁)
      (t.bot₂.trigger t.event b fallback (c.renamed t.ids) w₂) :=
  walk _ fallback h hc

/-! ### Turns -/

/-- A step that fails is ended. -/
theorem Meets.ended {x₁ x₂ : Step} (hx : t.Meets n t.Dropped (fun _ _ _ => True) (x₁ w₁) (x₂ w₂)) :
    (∃ c₁ c₂ v₁ v₂, x₁ w₁ = (.ok c₁, v₁) ∧ x₂ w₂ = (.ok c₂, v₂) ∧ t.InStep n v₁ v₂) ∨
      ∃ err c v₁ v₂, x₁ w₁ = (.error (err, c), v₁) ∧
        x₂ w₂ = (.error (err, c.renamed t.ids), v₂) ∧
        t.InStep n (t.bot₁.finish c (some err.message) v₁).2
          (t.bot₂.finish (c.renamed t.ids) (some err.message) v₂).2 := by
  generalize x₁ w₁ = r₁, x₂ w₂ = r₂ at hx
  cases hx with
  | ok h _ => exact .inl ⟨_, _, _, _, rfl, rfl, h⟩
  | @error v₁ v₂ e₁ e₂ h hx =>
    obtain ⟨err, c⟩ := e₁
    obtain ⟨err', c'⟩ := e₂
    obtain ⟨herr, hrenamed, hc⟩ := hx
    obtain rfl : err' = err := herr
    obtain rfl : c' = c.renamed t.ids := hrenamed
    exact .inr ⟨_, _, _, _, rfl, rfl, finish h hc _⟩

theorem advance (h : t.InStep n w₁ w₂) (hc : t.Holds w₁ c) (b : Block) (fallback : Bool) :
    t.Meets n t.Dropped (fun _ _ _ => True) (t.bot₁.advance t.event b fallback c w₁)
      (t.bot₂.advance t.event b fallback (c.renamed t.ids) w₂) := by
  refine (enter h hc b (!fallback)).bind ?_
  rintro w₁ w₂ c _ h ⟨rfl, hc⟩
  exact Meets.of_lift (trigger (h.emitted _ _) hc b fallback)

theorem proceed (h : t.InStep n w₁ w₂) (hc : t.Holds w₁ c) (b : Block) (fallback : Bool) :
    (t.bot₂.proceed t.event b fallback (c.renamed t.ids) w₂).1 =
        (t.bot₁.proceed t.event b fallback c w₁).1 ∧
      t.InStep n (t.bot₁.proceed t.event b fallback c w₁).2
        (t.bot₂.proceed t.event b fallback (c.renamed t.ids) w₂).2 := by
  have hcounted : (Bot.countAttempt fallback (c.renamed t.ids) w₂).1 =
      (Bot.countAttempt fallback c w₁).1.renamed t.ids := by cases fallback <;> rfl
  have hheld : t.Holds (Bot.countAttempt fallback c w₁).2 (Bot.countAttempt fallback c w₁).1 := by
    cases fallback <;> exact hc.changed rfl rfl rfl
  have hstep : t.InStep n (Bot.countAttempt fallback c w₁).2
      (Bot.countAttempt fallback (c.renamed t.ids) w₂).2 := by cases fallback <;> exact h
  have hadvance := advance hstep hheld b fallback
  rw [← hcounted] at hadvance
  rw [Bot.proceed_apply, Bot.proceed_apply]
  obtain ⟨c₁, c₂, v₁, v₂, h₁, h₂, hstep⟩ | ⟨err, c', v₁, v₂, h₁, h₂, hstep⟩ := hadvance.ended
  · rw [h₁, h₂]
    exact ⟨rfl, hstep⟩
  · rw [h₁, h₂]
    exact ⟨rfl, hstep⟩

theorem answer (h : t.InStep n w₁ w₂) (hc : t.Holds w₁ c) :
    t.Meets n Same Same (t.bot₁.answer t.event c w₁)
      (t.bot₂.answer t.event (c.renamed t.ids) w₂) := by
  have hfind : ∀ (bot : Bot) (c : Conversation) (w : World),
      (∀ earlier, bot.outages .findBlocks earlier = none) → bot.findNext t.event c w =
        (.ok (t.event.matchBlock? (bot.blocks.findMany c.nextIds)), w.counted .findBlocks) :=
    fun bot c w hup => run_bind_ok (Bot.ask_read_of_never bot w hup _)
  -- the conversation is asked for nothing but its next blocks and whether it asks again
  have hnext : t.bot₂.blocks.findMany (c.renamed t.ids).nextIds =
      t.bot₁.blocks.findMany c.nextIds := rfl
  have hasking : (if (c.renamed t.ids).asksAgain then (c.renamed t.ids).askingBlock? else none) =
      if c.asksAgain then c.askingBlock? else none := rfl
  rw [Bot.answer_apply, Bot.answer_apply, hfind _ _ _ up₁, hfind _ _ _ up₂, hnext, hasking]
  have hproceed : ∀ b fallback, t.Meets n (fun _ (x₁ x₂ : BotError) => x₂ = x₁) Same
      ((t.bot₁.proceed t.event b fallback c (w₁.counted .findBlocks)).map .ok id)
      ((t.bot₂.proceed t.event b fallback (c.renamed t.ids) (w₂.counted .findBlocks)).map .ok id) :=
    fun b fallback => by
      obtain ⟨hresult, hstep⟩ := proceed (h.counted .findBlocks) hc b fallback
      exact .of_eq (congrArg Except.ok hresult) hstep
  cases t.event.matchBlock? (t.bot₁.blocks.findMany c.nextIds) with
  | some found => exact hproceed found.block false
  | none =>
    cases (if c.asksAgain then c.askingBlock? else none) with
    | some b => exact hproceed b true
    | none => exact .ok (finish (h.counted .findBlocks) hc none) rfl

theorem continueActive (h : t.InStep n w₁ w₂) :
    t.Meets n Same Same (t.bot₁.continueActive t.event w₁) (t.bot₂.continueActive t.event w₂) := by
  rw [Bot.continueActive, Bot.continueActive, run_bind_ok (Bot.run_requireSender t.known _),
    run_bind_ok (Bot.run_requireSender t.known _)]
  refine (findActive h).bind ?_
  rintro w₁ w₂ c _ h ⟨rfl, hheld⟩
  cases c with
  | none => exact .ok h rfl
  | some c =>
    refine (answer h (hheld c rfl)).bind ?_
    intro w₁ w₂ _ handled h hsame
    obtain rfl := hsame
    cases handled with
    | false => exact .ok h rfl
    | true => exact Meets.of_lift (.ok (h.emitted _ _) rfl)

theorem sayFallback (h : t.InStep n w₁ w₂) :
    t.Meets n Same Same (t.bot₁.sayFallback t.event w₁) (t.bot₂.sayFallback t.event w₂) := by
  rw [Bot.sayFallback, Bot.sayFallback]
  have hsettings : t.bot₂.settings = t.bot₁.settings := rfl
  rw [hsettings]
  split
  · exact .ok h rfl
  · exact (send h _ _ _ _ _).bind fun h _ => .ok h rfl

theorem fallBackUntilStart (h : t.InStep n w₁ w₂) :
    t.Meets n Same Same (t.bot₁.fallBackUntilStart t.event w₁)
      (t.bot₂.fallBackUntilStart t.event w₂) := by
  have hsettings : t.bot₂.settings = t.bot₁.settings := rfl
  rw [Bot.fallBackUntilStart, Bot.fallBackUntilStart, hsettings]
  split
  · exact .ok h rfl
  rw [run_bind_ok (Bot.run_requireSender t.known _), run_bind_ok (Bot.run_requireSender t.known _)]
  refine Meets.of_lift ?_
  have h : t.InStep n (w₁.emitted [.globalFallback t.sender.id])
      (w₂.emitted [.globalFallback t.sender.id]) := h
  have hsay : ∀ {w₁ w₂}, t.InStep n w₁ w₂ → t.Meets n Same Same
      ((t.bot₁.sayFallback t.event >>= fun o => pure (.settled o) : Attempt Bot.Verdict) w₁)
      ((t.bot₂.sayFallback t.event >>= fun o => pure (.settled o) : Attempt Bot.Verdict) w₂) :=
    fun h => (sayFallback h).bind fun h hsame => .ok h (congrArg _ hsame)
  cases t.bot₁.settings.fallbackBlock with
  | none => exact hsay h
  | some id =>
    refine (findBlock h id).bind ?_
    intro w₁ w₂ _ found h hsame
    obtain rfl := hsame
    cases found with
    | none => exact hsay h
    | some b => exact .ok h rfl

/-- A turn up to the start of a conversation. -/
theorem untilStart (h : t.InStep n w₁ w₂) {event : Event} {s : Subscriber}
    (hknown : event.sender = some s)
    (hevent : event.detectLanguage t.bot.settings.languages = t.event) :
    t.Meets n Same Same (t.bot₁.untilStart event w₁) (t.bot₂.untilStart event w₂) := by
  have hevent₁ : event.detectLanguage t.bot₁.settings.languages = t.event := hevent
  have hevent₂ : event.detectLanguage t.bot₂.settings.languages = t.event := hevent
  rw [Bot.untilStart, Bot.untilStart, hevent₁, hevent₂,
    run_bind_ok (Bot.run_requireSender hknown _), run_bind_ok (Bot.run_requireSender hknown _)]
  refine (continueActive h).bind ?_
  intro w₁ w₂ _ continued h hsame
  obtain rfl := hsame
  cases continued with
  | true => exact .ok h rfl
  | false =>
    refine (findStarting h).bind ?_
    intro w₁ w₂ _ starting h hsame
    obtain rfl := hsame
    cases t.event.matchBlock? starting with
    | none => exact fallBackUntilStart h
    | some found => exact .ok h rfl

theorem begin (h : t.InStep n w₁ w₂) (hc : t.Holds w₁ c) (b : Block) :
    t.Meets n t.Dropped (fun _ _ _ => True) (t.bot₁.begin t.event b c w₁)
      (t.bot₂.begin t.event b (c.renamed t.ids) w₂) := by
  refine (enter h hc b true).bind ?_
  rintro w₁ w₂ c _ h ⟨rfl, hc⟩
  exact trigger h hc b false

/-- The start of a conversation, of which there may be one in a turn. -/
theorem start (h : t.InStep 0 w₁ w₂) (b : Block) :
    ∃ n ≤ 1, t.Meets n Same Same (t.bot₁.start t.event b w₁) (t.bot₂.start t.event b w₂) := by
  rw [Bot.start_apply t.known, Bot.start_apply t.known]
  obtain ⟨err, v₁, v₂, h₁, h₂, hstep⟩ | ⟨c, v₁, v₂, h₁, h₂, hstep, hc⟩ :=
    createConversation (h.emitted [.entry .popular b.name] [.entry .popular b.name])
  · rw [h₁, h₂]
    exact ⟨0, Nat.zero_le _, .error hstep rfl⟩
  · rw [h₁, h₂]
    have hbegin := begin (hstep.emitted [.count .newConversations] [.count .newConversations]) hc b
    refine ⟨1, Nat.le_refl _, ?_⟩
    dsimp only
    obtain ⟨c₁, c₂, v₁', v₂', h₁, h₂, hstep⟩ | ⟨err, c', v₁', v₂', h₁, h₂, hstep⟩ := hbegin.ended
    · rw [h₁, h₂]
      exact .ok hstep rfl
    · rw [h₁, h₂]
      exact .error hstep rfl

/-- **A turn keeps two worlds in step**, and comes to the same in both. -/
theorem handle (h : t.InStep 0 w₁ w₂) {event : Event} {s : Subscriber}
    (hknown : event.sender = some s)
    (hevent : event.detectLanguage t.bot.settings.languages = t.event) :
    ∃ n ≤ 1, t.Meets n Same Same (t.bot₁.handle event w₁) (t.bot₂.handle event w₂) := by
  have hevent₁ : event.detectLanguage t.bot₁.settings.languages = t.event := hevent
  have hevent₂ : event.detectLanguage t.bot₂.settings.languages = t.event := hevent
  rw [Bot.handle_eq, Bot.handle_eq, hevent₁, hevent₂, run_bind, run_bind]
  have huntil := untilStart h hknown hevent
  generalize t.bot₁.untilStart event w₁ = r₁, t.bot₂.untilStart event w₂ = r₂ at huntil
  cases huntil with
  | error h hx => exact ⟨0, Nat.zero_le _, .error h hx⟩
  | @ok _ _ _ v h hsame =>
    obtain rfl := hsame
    cases v with
    | settled o => exact ⟨0, Nat.zero_le _, .ok h rfl⟩
    | starts b o =>
      obtain ⟨n, hn, hstart⟩ := start h b
      exact ⟨n, hn, hstart.bind fun h _ => .ok h rfl⟩

end Twin

end Chatflow
