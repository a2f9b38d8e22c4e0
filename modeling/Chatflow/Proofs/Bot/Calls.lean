import Chatflow.Bot.Sending

/-!
# What calls do to the world

Each call to a store either fails, which leaves the world as it was but for the record of the call
(`World.refused`), or does its work: `Bot.ask_cases` says so for all calls, and one lemma for each
call says what its work is. `Bot.send`, the one computation here that makes several calls, has four
ways to go (`Bot.Sends`): the message is not rendered, not delivered, delivered without the
updates that come with it, or delivered with them.
-/

namespace Chatflow

/-! ### Computations on the world -/

section Run

variable {ε ε' α β : Type}

theorem run_bind (x : ExceptT ε Turn α) (f : α → ExceptT ε Turn β) (w : World) :
    (x >>= f) w =
      match x w with
      | (.ok a, w') => f a w'
      | (.error e, w') => (.error e, w') := by
  change ExceptT.bind x f w = _
  simp only [ExceptT.bind, ExceptT.mk, ExceptT.bindCont, bind, StateT.bind]
  rcases x w with ⟨_ | _, w'⟩ <;> rfl

theorem run_bind_ok {x : ExceptT ε Turn α} {f : α → ExceptT ε Turn β} {w w' : World} {a : α}
    (h : x w = (.ok a, w')) : (x >>= f) w = f a w' := by
  rw [run_bind, h]

theorem run_bind_error {x : ExceptT ε Turn α} {f : α → ExceptT ε Turn β} {w w' : World} {e : ε}
    (h : x w = (.error e, w')) : (x >>= f) w = (.error e, w') := by
  rw [run_bind, h]

theorem run_turn_bind (x : Turn α) (f : α → Turn β) (w : World) :
    (x >>= f) w = f (x w).1 (x w).2 := rfl

theorem run_lift_bind (x : Turn α) (f : α → ExceptT ε Turn β) (w : World) :
    ((liftM x : ExceptT ε Turn α) >>= f) w = f (x w).1 (x w).2 := rfl

theorem run_adapt (f : ε → ε') (x : ExceptT ε Turn α) (w : World) :
    ExceptT.adapt f x w = ((x w).1.mapError f, (x w).2) := rfl

end Run

namespace World

/-- The world after a call was made and failed. -/
def refused (w : World) (call : Call) : World := (w.counted call).failed call

/-- The world after some events were reported. -/
def emitted (w : World) (es : List Telemetry.Event) : World :=
  { w with telemetry := w.telemetry ++ es }

/-- The calls that failed since an earlier world. -/
def failedSince (w earlier : World) : List Call := w.failures.drop earlier.failures.length

/-- The messages sent since an earlier world. -/
def sentSince (w earlier : World) : List Sent := w.journal.drop earlier.journal.length

/-- A call that fails is seen to have failed. -/
theorem mem_failedSince_failed {w₀ w : World} {call : Call} (h : w₀.failures <+: w.failures) :
    call ∈ (w.failed call).failedSince w₀ := by
  obtain ⟨fs, hfs⟩ := h
  simp [failedSince, failed, ← hfs]

/-- A call that is not seen to have failed later had not failed earlier. -/
theorem not_mem_failedSince {w₀ w w' : World} {call : Call} (h : w.failures <+: w'.failures)
    (hn : call ∉ w'.failedSince w₀) : call ∉ w.failedSince w₀ :=
  fun hm => hn ((h.sublist.drop _).subset hm)

/-- The message that is sent is the last one sent. -/
theorem sentSince_concat {w₀ w w' : World} {x : Sent} (h : w₀.journal <+: w.journal)
    (hx : w'.journal = w.journal ++ [x]) : w'.sentSince w₀ = w.sentSince w₀ ++ [x] := by
  rw [sentSince, hx, List.drop_append_of_le_length h.length_le, sentSince]

/-- Nothing changed but the counts, and calls may have failed. -/
structure Quiet (w w' : World) : Prop where
  conversations : w'.conversations = w.conversations
  subscribers : w'.subscribers = w.subscribers
  telemetry : w'.telemetry = w.telemetry
  journal : w'.journal = w.journal
  failures : w.failures <+: w'.failures

theorem Quiet.refl (w : World) : w.Quiet w := ⟨rfl, rfl, rfl, rfl, List.prefix_rfl⟩

theorem Quiet.trans {w₁ w₂ w₃ : World} (h : w₁.Quiet w₂) (h' : w₂.Quiet w₃) : w₁.Quiet w₃ where
  conversations := h'.conversations.trans h.conversations
  subscribers := h'.subscribers.trans h.subscribers
  telemetry := h'.telemetry.trans h.telemetry
  journal := h'.journal.trans h.journal
  failures := h.failures.trans h'.failures

theorem quiet_counted (w : World) (call : Call) : w.Quiet (w.counted call) :=
  ⟨rfl, rfl, rfl, rfl, List.prefix_rfl⟩

theorem quiet_failed (w : World) (call : Call) : w.Quiet (w.failed call) :=
  ⟨rfl, rfl, rfl, rfl, List.prefix_append _ _⟩

theorem quiet_refused (w : World) (call : Call) : w.Quiet (w.refused call) :=
  ⟨rfl, rfl, rfl, rfl, List.prefix_append _ _⟩

end World

/-- To report nothing changes nothing. -/
theorem World.emitted_nil (w : World) : w.emitted [] = w := by
  rw [World.emitted, List.append_nil]

theorem emit_snd (e : Telemetry.Event) (w : World) : (emit e w).2 = w.emitted [e] := rfl

namespace Bot

variable (bot : Bot) (w : World)

/-! ### Calls to stores -/

theorem meet_cases (call : Call) :
    (∃ fault, bot.meet call w = (some fault, w.refused call)) ∨
      bot.meet call w = (none, w.counted call) := by
  rw [meet]
  split
  · exact .inl ⟨_, rfl⟩
  · exact .inr rfl

theorem quiet_meet (call : Call) : w.Quiet (bot.meet call w).2 := by
  obtain ⟨fault, h⟩ | h := bot.meet_cases w call
  · rw [h]
    exact w.quiet_refused call
  · rw [h]
    exact w.quiet_counted call

/-- A lookup that meets no fault. -/
theorem meet_of_never {call : Call} (h : ∀ earlier, bot.outages call earlier = none) :
    bot.meet call w = (none, w.counted call) := by
  rw [meet, h]

/-- A call that meets no fault does its work, or the store refuses. -/
theorem ask_of_never {α : Type} {call : Call} (h : ∀ earlier, bot.outages call earlier = none)
    (work : World → Except StoreError (α × World)) :
    bot.ask call work w =
      match work (w.counted call) with
      | .ok (a, w') => (.ok a, w')
      | .error cause => (.error (.store cause), w.refused call) := by
  rw [ask, h]
  rfl

/-- **A call fails or does its work.** -/
theorem ask_cases {α : Type} (call : Call) (work : World → Except StoreError (α × World)) :
    (∃ err, bot.ask call work w = (.error err, w.refused call)) ∨
      ∃ a w', work (w.counted call) = .ok (a, w') ∧ bot.ask call work w = (.ok a, w') := by
  rw [ask]
  split
  · exact .inl ⟨_, rfl⟩
  · split
    · rename_i a w' h
      exact .inr ⟨a, w', h, rfl⟩
    · exact .inl ⟨_, rfl⟩

/-- A call that the store does not refuse meets a fault or does its work. -/
theorem ask_of_ok {α : Type} {call : Call} {work : World → Except StoreError (α × World)} {a : α}
    {w' : World} (h : work (w.counted call) = .ok (a, w')) :
    (∃ fault, bot.outages call (w.made call) = some fault ∧
        bot.ask call work w = (.error (.store fault.storeError), w.refused call)) ∨
      bot.ask call work w = (.ok a, w') := by
  rw [ask]
  split
  · rename_i fault hfault
    exact .inl ⟨fault, hfault, rfl⟩
  · rw [h]
    exact .inr rfl

/-- A call that no store refuses meets a fault or does its work. -/
theorem ask_faults {α : Type} (call : Call) (work : World → α × World) :
    (∃ fault, bot.outages call (w.made call) = some fault ∧
        bot.ask call (fun w => .ok (work w)) w =
          (.error (.store fault.storeError), w.refused call)) ∨
      bot.ask call (fun w => .ok (work w)) w =
        (.ok (work (w.counted call)).1, (work (w.counted call)).2) :=
  bot.ask_of_ok w rfl

/-- A call that only reads. -/
theorem ask_read {α : Type} (call : Call) (f : World → α) :
    (∃ err, bot.ask call (fun w => .ok (f w, w)) w = (.error err, w.refused call)) ∨
      bot.ask call (fun w => .ok (f w, w)) w = (.ok (f (w.counted call)), w.counted call) :=
  (bot.ask_faults w call fun w => (f w, w)).imp_left fun ⟨_, _, h⟩ => ⟨_, h⟩

/-- A call that writes what a store makes of it. -/
theorem ask_write {α σ : Type} (call : Call) (act : World → Except StoreError σ) (give : σ → α)
    (put : World → σ → World) :
    (∃ err, bot.ask call (fun w => act w >>= fun r => pure (give r, put w r)) w =
        (.error err, w.refused call)) ∨
      ∃ r, act (w.counted call) = .ok r ∧
        bot.ask call (fun w => act w >>= fun r => pure (give r, put w r)) w =
          (.ok (give r), put (w.counted call) r) := by
  refine (bot.ask_cases w call _).imp_right ?_
  rintro ⟨a, w', hwork, h⟩
  cases hact : act (w.counted call) with
  | error err => rw [hact] at hwork; cases hwork
  | ok r => rw [hact] at hwork; cases hwork; exact ⟨r, rfl, h⟩

/-- A call that only reads, and meets no fault. -/
theorem ask_read_of_never {α : Type} {call : Call}
    (h : ∀ earlier, bot.outages call earlier = none) (f : World → α) :
    bot.ask call (fun w => .ok (f w, w)) w = (.ok (f (w.counted call)), w.counted call) := by
  rw [ask_of_never bot w h]

/-- A call that writes and meets no fault fails or not as the store does. -/
theorem ask_write_of_never {α σ : Type} {call : Call}
    (h : ∀ earlier, bot.outages call earlier = none) (act : World → Except StoreError σ)
    (give : σ → α) (put : World → σ → World) :
    (∀ cause, act (w.counted call) = .error cause →
      bot.ask call (fun w => act w >>= fun r => pure (give r, put w r)) w =
        (.error (.store cause), w.refused call)) ∧
    ∀ r, act (w.counted call) = .ok r →
      bot.ask call (fun w => act w >>= fun r => pure (give r, put w r)) w =
        (.ok (give r), put (w.counted call) r) := by
  refine ⟨fun cause hcause => ?_, fun r hr => ?_⟩
  · rw [ask_of_never bot w h, hcause]
    rfl
  · rw [ask_of_never bot w h, hr]
    rfl

theorem findBlocks_cases (ids : List String) :
    (∃ err, bot.findBlocks ids w = (.error err, w.refused .findBlocks)) ∨
      bot.findBlocks ids w = (.ok (bot.blocks.findMany ids), w.counted .findBlocks) :=
  bot.ask_read w _ fun _ => bot.blocks.findMany ids

theorem findBlock_cases (id : String) :
    (∃ err, bot.findBlock id w = (.error err, w.refused .findBlock)) ∨
      bot.findBlock id w = (.ok (bot.blocks.find? id), w.counted .findBlock) :=
  bot.ask_read w _ fun _ => bot.blocks.find? id

theorem findStarting_cases :
    (∃ err, bot.findStarting w = (.error err, w.refused .findStarting)) ∨
      bot.findStarting w = (.ok bot.blocks.starting, w.counted .findStarting) :=
  bot.ask_read w _ fun _ => bot.blocks.starting

theorem findActive_cases (sender : String) :
    (∃ err, bot.findActive sender w = (.error err, w.refused .findActive)) ∨
      bot.findActive sender w = (.ok (w.conversations.active? sender), w.counted .findActive) :=
  bot.ask_read w _ fun w => w.conversations.active? sender

theorem createConversation_cases (sender : String) :
    (∃ err, bot.createConversation sender w = (.error err, w.refused .createConversation)) ∨
      ∃ r, w.conversations.create sender = .ok r ∧
        bot.createConversation sender w =
          (.ok r.1, { w.counted .createConversation with conversations := r.2 }) :=
  bot.ask_write w _ (fun w => w.conversations.create sender) (·.1)
    fun w r => { w with conversations := r.2 }

/-- Only a fault keeps a conversation from being created that the store takes. -/
theorem createConversation_of_create {sender : String} {r : Conversation × ConversationStore}
    (hr : w.conversations.create sender = .ok r) :
    (∃ fault, bot.outages .createConversation (w.made .createConversation) = some fault ∧
        bot.createConversation sender w =
          (.error (.store fault.storeError), w.refused .createConversation)) ∨
      bot.createConversation sender w =
        (.ok r.1, { w.counted .createConversation with conversations := r.2 }) := by
  have hcounted : (w.counted .createConversation).conversations.create sender = .ok r := hr
  refine bot.ask_of_ok w ?_
  rw [hcounted]
  rfl

theorem updateConversation_cases (c : Conversation) :
    (∃ err, bot.updateConversation c w = (.error err, w.refused .updateConversation)) ∨
      ∃ store, w.conversations.update c = .ok store ∧
        bot.updateConversation c w =
          (.ok (), { w.counted .updateConversation with conversations := store }) :=
  bot.ask_write w _ (fun w => w.conversations.update c) (fun _ => ())
    fun w store => { w with conversations := store }

theorem endConversation_cases (id : String) :
    (∃ err, bot.endConversation id w = (.error err, w.refused .endConversation)) ∨
      ∃ store, w.conversations.finish id = .ok store ∧
        bot.endConversation id w =
          (.ok (), { w.counted .endConversation with conversations := store }) :=
  bot.ask_write w _ (fun w => w.conversations.finish id) (fun _ => ())
    fun w store => { w with conversations := store }

theorem updateVars_cases (id : String) (vars : Dict Json) :
    (∃ err, bot.updateVars id vars w = (.error err, w.refused .updateVars)) ∨
      ∃ r, w.subscribers.updateVars id vars = .ok r ∧
        bot.updateVars id vars w =
          (.ok (), { w.counted .updateVars with subscribers := r.2 }) :=
  bot.ask_write w _ (fun w => w.subscribers.updateVars id vars) (fun _ => ())
    fun w r => { w with subscribers := r.2 }

theorem applyUpdates_cases (id : String) (labels : List String) (agent : Option String) :
    (∃ err, bot.applyUpdates id labels agent w = (.error err, w.refused .applyUpdates)) ∨
      ∃ r, w.subscribers.applyUpdates id labels agent = .ok r ∧
        bot.applyUpdates id labels agent w =
          (.ok (), { w.counted .applyUpdates with subscribers := r.2 }) :=
  bot.ask_write w _ (fun w => w.subscribers.applyUpdates id labels agent) (fun _ => ())
    fun w r => { w with subscribers := r.2 }

section Never

variable {bot}

theorem updateConversation_of_never (h : ∀ earlier, bot.outages .updateConversation earlier = none)
    (c : Conversation) :
    (∀ cause, w.conversations.update c = .error cause →
      bot.updateConversation c w = (.error (.store cause), w.refused .updateConversation)) ∧
    ∀ store, w.conversations.update c = .ok store →
      bot.updateConversation c w =
        (.ok (), { w.counted .updateConversation with conversations := store }) :=
  ask_write_of_never bot w h (fun w => w.conversations.update c) (fun _ => ())
    fun w store => { w with conversations := store }

theorem endConversation_of_never (h : ∀ earlier, bot.outages .endConversation earlier = none)
    (id : String) :
    (∀ cause, w.conversations.finish id = .error cause →
      bot.endConversation id w = (.error (.store cause), w.refused .endConversation)) ∧
    ∀ store, w.conversations.finish id = .ok store →
      bot.endConversation id w =
        (.ok (), { w.counted .endConversation with conversations := store }) :=
  ask_write_of_never bot w h (fun w => w.conversations.finish id) (fun _ => ())
    fun w store => { w with conversations := store }

theorem createConversation_of_never (h : ∀ earlier, bot.outages .createConversation earlier = none)
    (sender : String) :
    (∀ cause, w.conversations.create sender = .error cause →
      bot.createConversation sender w = (.error (.store cause), w.refused .createConversation)) ∧
    ∀ r, w.conversations.create sender = .ok r →
      bot.createConversation sender w =
        (.ok r.1, { w.counted .createConversation with conversations := r.2 }) :=
  ask_write_of_never bot w h (fun w => w.conversations.create sender) (·.1)
    fun w r => { w with conversations := r.2 }

end Never

/-! ### Sending -/

variable {bot w}

/-- What is reported when a message was accepted. -/
def reports (mid : String) (s : Subscriber) (x : Sent) : List Telemetry.Event :=
  [.count .outgoing, .count .allMessages, .messageSent mid s.id x.block.options.assignTo,
    .blockTriggered x.block.name x.fallback]

/-- A message was accepted, and `es` was reported. -/
structure Heard (x : Sent) (es : List Telemetry.Event) (w w' : World) : Prop where
  conversations : w'.conversations = w.conversations
  subscribers : w'.subscribers = w.subscribers
  telemetry : w'.telemetry = w.telemetry ++ es
  journal : w'.journal = w.journal ++ [x]
  failures : w.failures <+: w'.failures

/-- What a channel accepted after a quiet time, and is then reported. -/
theorem Heard.reported {x : Sent} {w w₁ w₂ : World} (h : Heard x [] w₁ w₂) (hquiet : w.Quiet w₁)
    (es : List Telemetry.Event) : Heard x es w (w₂.emitted es) where
  conversations := h.conversations.trans hquiet.conversations
  subscribers := h.subscribers.trans hquiet.subscribers
  telemetry := by rw [World.emitted, h.telemetry, hquiet.telemetry, List.append_nil]
  journal := by rw [World.emitted, h.journal, hquiet.journal]
  failures := hquiet.failures.trans h.failures

theorem quiet_render (bot : Bot) (b : Block) (c : Context) (vars : Dict Json) (fallback : Bool)
    (conversation : Option String) (w : World) :
    w.Quiet (bot.render b c vars fallback conversation w).2 := by
  have hdrawn : w.Quiet { w with drawn := w.drawn + 1 } :=
    ⟨rfl, rfl, rfl, rfl, List.prefix_rfl⟩
  change w.Quiet (if _ then _ else _)
  split
  · exact hdrawn.trans (bot.quiet_meet _ _)
  · exact hdrawn

theorem run_requireSender {e : Event} {s : Subscriber} (hs : e.sender = some s) (w : World) :
    e.requireSender w = (.ok s, w) := by
  rw [Event.requireSender, hs]
  rfl

theorem deliver_cases (e : Event) (x : Sent) (w : World) :
    (∃ err w', bot.deliver e x w = (.error err, w') ∧ w.Quiet w' ∧ .send ∈ w'.failedSince w) ∨
      ∃ w', bot.deliver e x w = (.ok w.nextMessageId, w') ∧ Heard x [] w w' := by
  unfold deliver
  have hfailed : .send ∈ (w.failed .send).failedSince w :=
    World.mem_failedSince_failed List.prefix_rfl
  cases hchannel : w.channels.find? x.channel with
  | none => exact .inl ⟨_, _, rfl, w.quiet_failed _, hfailed⟩
  | some channel =>
    cases channel with
    | recorder =>
      simp only
      split
      · exact .inl ⟨_, _, rfl, w.quiet_refused _,
          World.mem_failedSince_failed (w := w.counted .send)
          List.prefix_rfl⟩
      · exact .inr ⟨_, rfl, rfl, rfl, (List.append_nil _).symm, rfl, List.prefix_rfl⟩
    | widget outbox =>
      simp only
      split
      · exact .inl ⟨_, _, rfl, w.quiet_failed _, hfailed⟩
      · exact .inr ⟨_, rfl, rfl, rfl, (List.append_nil _).symm, rfl, List.prefix_rfl⟩

section

variable (bot) (e : Event) (s : Subscriber) (b : Block) (c : Context) (fallback : Bool)
  (conversation : Option String)

/-- What a sent message is on record as. -/
def record (envelope : Envelope) : Sent :=
  ⟨e.channel, s.foreignId, b, fallback, c, conversation, envelope, sendOptions b⟩

/-- How the sending of a message goes: what comes of it, and the world after it. -/
inductive Sends (w : World) : Except BotError String → World → Prop where
  /-- The message cannot be rendered. -/
  | unrendered {w' : World} {err : RenderError}
      (hrender : (bot.renderer w).process b c s.vars fallback conversation (bot.rolls w.drawn) =
        .error err)
      (hquiet : w.Quiet w') : Sends w (.error (.render err)) w'
  /-- The channel does not take it. -/
  | undelivered {w' : World} {err : BotError} (hquiet : w.Quiet w')
      (hfailed : .send ∈ w'.failedSince w) : Sends w (.error err) w'
  /-- The channel takes it, but the store does not take what comes with it. -/
  | unapplied {w' : World} {envelope : Envelope} {err : BotError}
      (hrender : (bot.renderer w).process b c s.vars fallback conversation (bot.rolls w.drawn) =
        .ok envelope)
      (hheard : Heard (record e s b c fallback conversation envelope)
        (reports w.nextMessageId s (record e s b c fallback conversation envelope)) w w') :
      Sends w (.error err) (w'.refused .applyUpdates)
  /-- It is sent. -/
  | applied {w' : World} {envelope : Envelope} {r : Subscriber × SubscriberStore}
      (hrender : (bot.renderer w).process b c s.vars fallback conversation (bot.rolls w.drawn) =
        .ok envelope)
      (hheard : Heard (record e s b c fallback conversation envelope)
        (reports w.nextMessageId s (record e s b c fallback conversation envelope)) w w')
      (hupdates : w'.subscribers.applyUpdates s.id b.assignLabels b.options.assignTo = .ok r) :
      Sends w (.ok w.nextMessageId) { w'.counted .applyUpdates with subscribers := r.2 }

/-- Sending, with what is put on record under its name. -/
theorem send_eq :
    bot.send e b c fallback conversation = (do
      let s ← e.requireSender
      let envelope ← bot.render b c s.vars fallback conversation
      let mid ← bot.deliver e (record e s b c fallback conversation envelope)
      report mid s b fallback
      bot.applyUpdates s.id b.assignLabels b.options.assignTo
      return mid) := rfl

theorem report_apply (mid : String) (envelope : Envelope) (w : World) :
    (liftM (report mid s b fallback) : Attempt Unit) w =
      (.ok (), w.emitted (reports mid s (record e s b c fallback conversation envelope))) := by
  change (Except.ok (), World.emitted (World.emitted (World.emitted (World.emitted w _) _) _) _) = _
  simp only [World.emitted, reports, List.append_assoc]
  rfl

/-- **Every sending goes one of the four ways.** -/
theorem send_cases (hs : e.sender = some s) (w : World) :
    Sends bot e s b c fallback conversation w (bot.send e b c fallback conversation w).1
      (bot.send e b c fallback conversation w).2 := by
  rw [send_eq, run_bind_ok (run_requireSender hs w)]
  have hquiet := bot.quiet_render b c s.vars fallback conversation w
  have hresult : (bot.render b c s.vars fallback conversation w).1 =
      ((bot.renderer w).process b c s.vars fallback conversation
        (bot.rolls w.drawn)).mapError .render := rfl
  generalize hrun : bot.render b c s.vars fallback conversation w = run at hquiet hresult
  obtain ⟨r, w₁⟩ := run
  cases hprocess : (bot.renderer w).process b c s.vars fallback conversation
      (bot.rolls w.drawn) with
  | error err =>
    rw [hprocess] at hresult
    obtain rfl : r = _ := hresult
    rw [run_bind_error hrun]
    exact .unrendered hprocess hquiet
  | ok envelope =>
    rw [hprocess] at hresult
    obtain rfl : r = _ := hresult
    rw [run_bind_ok hrun]
    have hmid : w₁.nextMessageId = w.nextMessageId := by
      rw [World.nextMessageId, World.nextMessageId, hquiet.journal]
    obtain ⟨err, w₂, hdeliver, hquiet₂, hfailed⟩ | ⟨w₂, hdeliver, hheard⟩ :=
      bot.deliver_cases e (record e s b c fallback conversation envelope) w₁
    · rw [run_bind_error hdeliver]
      refine .undelivered (hquiet.trans hquiet₂) ?_
      exact List.drop_subset_drop_left _ hquiet.failures.length_le hfailed
    · -- the message is out: the reports and the updates follow
      rw [run_bind_ok hdeliver, hmid,
        run_bind_ok (report_apply e s b c fallback conversation _ envelope w₂)]
      have hreported := hheard.reported hquiet
        (reports w.nextMessageId s (record e s b c fallback conversation envelope))
      obtain ⟨err, happly⟩ | ⟨r, hupdates, happly⟩ := bot.applyUpdates_cases
        (w₂.emitted (reports w.nextMessageId s (record e s b c fallback conversation envelope)))
        s.id b.assignLabels b.options.assignTo
      · rw [run_bind_error happly]
        exact .unapplied hprocess hreported
      · rw [run_bind_ok happly]
        exact .applied hprocess hreported hupdates

end

end Bot

end Chatflow
